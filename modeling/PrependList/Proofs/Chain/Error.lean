import Mathlib.Tactic.TFAE
import PrependList.Chain.Error
import PrependList.Proofs.Text.Quoted

/-!
# The texts of errors tell them apart

An error has a message, and is shown in one line or in several. The name of an operation is any
text, so it may imitate whatever stands around it. In the message it stands in front of fixed words,
and a message of the other kind ends with other words. Where it is shown it is quoted, and a quoted
text has one reading. So each of the three texts determines the error, and the last two characters
tell which of the three a text is (`texts_tell_apart`).
-/

namespace PrependList.ListError

/-- The last two characters of a text, the last one first. -/
def ending (text : String) : List Char := text.toList.reverse.take 2

theorem ending_append {before after : String} (h : 2 ≤ after.toList.length) :
    ending (before ++ after) = ending after := by
  rw [ending, String.toList_append, List.reverse_append,
    List.take_append_of_le_length (by rwa [List.length_reverse])]
  rfl

theorem ending_message_allocationFailure (bytes : UInt64) :
    ending (allocationFailure bytes).message = ['s', 'e'] :=
  (ending_append (by decide)).trans (by decide)

theorem ending_message_preconditionViolation (operation : String) :
    ending (preconditionViolation operation).message = ['r', 'o'] :=
  (ending_append (by decide)).trans (by decide)

theorem ending_shown (error : ListError) : ending error.shown = ['\x7d', ' '] :=
  (ending_append (by decide)).trans (by decide)

theorem ending_shownMultiline (error : ListError) :
    ending error.shownMultiline = ['\x7d', '\n'] :=
  (ending_append (by decide)).trans (by decide)

/-! ## The error behind a text -/

/-- A text that determines the fields of each kind, and differs between the kinds, determines the
error. -/
theorem eq_of_text (text : ListError → String)
    (hbytes : ∀ bytes others, text (allocationFailure bytes) = text (allocationFailure others) →
      bytes = others)
    (hoperation : ∀ operation others,
      text (preconditionViolation operation) = text (preconditionViolation others) →
      operation = others)
    (hkinds : ∀ bytes operation,
      text (allocationFailure bytes) ≠ text (preconditionViolation operation))
    {error other : ListError} (h : text error = text other) : error = other := by
  cases error with
  | allocationFailure bytes =>
    cases other with
    | allocationFailure others => rw [hbytes bytes others h]
    | preconditionViolation operation => exact absurd h (hkinds bytes operation)
  | preconditionViolation operation =>
    cases other with
    | allocationFailure bytes => exact absurd h.symm (hkinds bytes operation)
    | preconditionViolation others => rw [hoperation operation others h]

theorem bytes_eq_of_numeral {bytes others : UInt64}
    (h : Numeral.ofNat bytes.toNat = Numeral.ofNat others.toNat) : bytes = others :=
  UInt64.toNat_inj.mp (Numeral.decimal_injective (String.ofList_injective h))

theorem operation_eq_of_quoted {operation others : String}
    (h : String.ofList (Quoted.text operation.toList) = String.ofList (Quoted.text others.toList)) :
    operation = others :=
  String.toList_inj.mp (Quoted.text_injective (String.ofList_injective h))

/-- Names begin differently, so in any frame the kind is seen first, and then the field. -/
theorem eq_of_framed {error other : ListError} {before after : String}
    (h : error.name ++ before ++ error.field ++ after
      = other.name ++ before ++ other.field ++ after) : error = other := by
  have hopen := (String.append_left_inj after).mp h
  refine eq_of_text (fun error => error.name ++ before ++ error.field)
    (fun bytes others heq => ?_) (fun operation others heq => ?_) (fun bytes operation heq => ?_)
    hopen
  · have hfield := (String.append_right_inj _).mp heq
    exact bytes_eq_of_numeral ((String.append_right_inj _).mp hfield)
  · have hfield := (String.append_right_inj _).mp heq
    exact operation_eq_of_quoted ((String.append_right_inj _).mp hfield)
  · have hfirst := congrArg (fun text => text.toList.head?) heq
    simp [name] at hfirst

theorem eq_of_message {error other : ListError} (h : error.message = other.message) :
    error = other := by
  refine eq_of_text message (fun bytes others heq => ?_) (fun operation others heq => ?_)
    (fun bytes operation heq => ?_) h
  · exact bytes_eq_of_numeral ((String.append_right_inj _).mp ((String.append_left_inj _).mp heq))
  · exact (String.append_left_inj _).mp heq
  · -- whatever the operation is called, the last words differ
    have hend := congrArg ending heq
    rw [ending_message_allocationFailure, ending_message_preconditionViolation] at hend
    cases hend

theorem ending_message_ne (error : ListError) (c : Char) : ending error.message ≠ ['\x7d', c] := by
  intro h
  cases error with
  | allocationFailure bytes =>
    rw [ending_message_allocationFailure] at h
    cases h
  | preconditionViolation operation =>
    rw [ending_message_preconditionViolation] at h
    cases h

/--
**No text of an error can be mistaken for that of a different one.**

Two errors are equal exactly if they have the same message, exactly if they are shown alike in one
line, and exactly if they are shown alike in several lines. That holds whatever the operations are
called. And no message looks like an error that is shown, nor does one line look like several.
-/
theorem texts_tell_apart (error other : ListError) :
    [(error == other) = true, error.message = other.message, error.shown = other.shown,
        error.shownMultiline = other.shownMultiline].TFAE
      ∧ error.message ≠ other.shown ∧ error.message ≠ other.shownMultiline
      ∧ error.shown ≠ other.shownMultiline := by
  refine ⟨?_, fun h => ?_, fun h => ?_, fun h => ?_⟩
  · tfae_have 1 → 2 := fun h => congrArg message (eq_of_beq h)
    tfae_have 2 → 3 := fun h => congrArg shown (eq_of_message h)
    tfae_have 3 → 4 := fun h => congrArg shownMultiline (eq_of_framed h)
    tfae_have 4 → 1 := fun h => beq_iff_eq.mpr (eq_of_framed h)
    tfae_finish
  · exact error.ending_message_ne ' ' (by rw [h, ending_shown])
  · exact error.ending_message_ne '\n' (by rw [h, ending_shownMultiline])
  · have hend := congrArg ending h
    rw [ending_shown, ending_shownMultiline] at hend
    cases hend

end PrependList.ListError
