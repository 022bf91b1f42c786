import PrependList.Log.Event
import PrependList.Proofs.Text.Quoted

/-!
# The lines of a log

What an event has to say is plain text (`Event.isPlainText_line`), whatever arguments it names. So it
stays on one line, and a log that was written line by line falls apart into the same lines
(`splitOn_join_lines`).

The arguments that are ignored can be read from such a line, and from no line of another event
(`Event.announced?_line`): nobody who reads a log can be made to see arguments that were not there.
-/

namespace PrependList

open Numeral

/-- A text that has plain characters only. -/
def IsPlainText (text : String) : Prop := ∀ c ∈ text.toList, isPlain c = true

instance (text : String) : Decidable (IsPlainText text) :=
  decidable_of_iff (text.toList.all isPlain = true) List.all_eq_true

theorem IsPlainText.append {before after : String} (hbefore : IsPlainText before)
    (hafter : IsPlainText after) : IsPlainText (before ++ after) := by
  rw [IsPlainText, String.toList_append, List.forall_mem_append]
  exact ⟨hbefore, hafter⟩

theorem isPlainText_ofList {cs : List Char} (h : ∀ c ∈ cs, isPlain c = true) :
    IsPlainText (String.ofList cs) := by
  rw [IsPlainText, String.toList_ofList]
  exact h

theorem head?_toList_append {before : String} {c : Char} (h : before.toList.head? = some c)
    (after : String) : (before ++ after).toList.head? = some c := by
  rw [String.toList_append, List.head?_append, h]
  rfl

theorem isPlainText_ofNat (n : Nat) : IsPlainText (ofNat n) :=
  isPlainText_ofList (Quoted.isPlain_of_digits? (digits?_decimal 0 n))

theorem isPlainText_ofInt32 (value : Int32) : IsPlainText (ofInt32 value) := by
  refine isPlainText_ofList ?_
  rw [signed, List.forall_mem_append]
  refine ⟨?_, Quoted.isPlain_of_digits? (digits?_decimal 0 (magnitude value))⟩
  unfold sign
  split <;> exact List.all_eq_true.mp rfl

theorem Level.isPlainText_label (level : Level) : IsPlainText level.label := by
  cases level <;> decide

/-- In front of its message every line has as many characters. -/
theorem Level.length_label (level : Level) : (level.label ++ " clist: ").toList.length = 13 := by
  cases level <;> decide

/-- Whether an event is logged depends on its rank and on the first three verbose flags. -/
theorem Level.log_ofVerbosity (count : Nat) (event : Event) :
    (ofVerbosity count).log [event]
      = if event.level.rank ≤ 2 + min 3 count then [event.line] else [] := by
  rw [log, keep, List.filter_singleton, admits, rank_ofVerbosity]
  by_cases hrank : event.level.rank ≤ 2 + min 3 count
  · rw [if_pos hrank, decide_eq_true hrank]
    rfl
  · rw [if_neg hrank, decide_eq_false hrank]
    rfl

namespace Event

theorem isPlainText_message (event : Event) : IsPlainText event.message := by
  cases event with
  | building count => exact .append (by decide) (isPlainText_ofNat count)
  | prepended value size =>
    exact .append (.append (.append (by decide) (isPlainText_ofInt32 value)) (by decide))
      (isPlainText_ofNat size)
  | visiting value => exact .append (by decide) (isPlainText_ofInt32 value)
  | traversing length => exact .append (by decide) (isPlainText_ofNat length)
  | ignoring arguments =>
    exact .append (by decide) (isPlainText_ofList (Quoted.isPlain_of_mem_bytesList arguments))
  | done => decide

/-- **Every event is told in plain characters.** -/
theorem isPlainText_line (event : Event) : IsPlainText event.line :=
  .append (.append event.level.isPlainText_label (by decide)) event.isPlainText_message

theorem newline_not_mem_line (event : Event) : '\n' ∉ event.line.toList :=
  fun h => absurd (event.isPlainText_line '\n' h) (by decide)

/-! ## Reading a line -/

/-- The arguments that the event names. -/
def ignored? : Event → Option (List (List UInt8))
  | ignoring arguments => some arguments
  | _ => none

/-- The words in front of the arguments that are ignored. -/
def herald : String := "DEBUG clist: ignoring extra arguments ignored="

/-- The arguments that a line names. -/
def announced? (line : List Char) : Option (List (List UInt8)) :=
  if herald.toList <+: line then Quoted.list? (line.drop herald.toList.length) else none

theorem toList_line_ignoring (arguments : List (List UInt8)) :
    (ignoring arguments).line.toList = herald.toList ++ Quoted.bytesList arguments := by
  have hline : (ignoring arguments).line = herald ++ String.ofList (Quoted.bytesList arguments) := by
    show "DEBUG" ++ " clist: " ++ ("ignoring extra arguments ignored=" ++ _) = _
    rw [← String.append_assoc]
    rfl
  rw [hline, String.toList_append, String.toList_ofList]

/-- The message is what a line has behind its first thirteen characters. -/
theorem drop_line (event : Event) : event.line.toList.drop 13 = event.message.toList := by
  rw [line, String.toList_append, ← event.level.length_label, List.drop_left]

/-- The first letter of the message. No two kinds of events share it. -/
def initial : Event → Char
  | building _ => 'b'
  | prepended _ _ => 'p'
  | visiting _ => 'v'
  | traversing _ => 't'
  | ignoring _ => 'i'
  | done => 'd'

theorem head?_message (event : Event) : event.message.toList.head? = some event.initial := by
  cases event with
  | prepended value size =>
    exact head?_toList_append (head?_toList_append (head?_toList_append rfl _) _) _
  | building _ | visiting _ | traversing _ | ignoring _ => exact head?_toList_append rfl _
  | done => decide

/-- No other event has a line that begins so. -/
theorem ignored?_ne_none {event : Event} (h : herald.toList <+: event.line.toList) :
    event.ignored? ≠ none := by
  have hinitial : some event.initial = some 'i' := by
    obtain ⟨rest, hrest⟩ := h
    rw [← head?_message, ← drop_line, ← hrest]
    rfl
  cases event with
  | ignoring arguments => exact fun hnone => by cases hnone
  | building _ | prepended _ _ | visiting _ | traversing _ | done =>
    exact absurd (Option.some.inj hinitial) (by simp [initial])

/-- **A line names arguments exactly if its event does**, and the same ones. -/
theorem announced?_line (event : Event) : announced? event.line.toList = event.ignored? := by
  rw [announced?]
  cases event with
  | ignoring arguments =>
    rw [toList_line_ignoring, if_pos (List.prefix_append _ _), List.drop_left,
      Quoted.list?_bytesList]
    rfl
  | building _ | prepended _ _ | visiting _ | traversing _ | done =>
    exact if_neg fun h => ignored?_ne_none h rfl

end Event

/-! ## Line by line -/

/-- Lines that were written one after another are found again. -/
theorem splitOn_join_lines (lines : List String) (rest : String)
    (h : ∀ line ∈ lines, '\n' ∉ line.toList) :
    (String.join (lines.map (· ++ "\n")) ++ rest).toList.splitOn '\n'
      = lines.map String.toList ++ rest.toList.splitOn '\n' := by
  induction lines with
  | nil => simp [String.join]
  | cons line lines ih =>
    have htext : (String.join ((line :: lines).map (· ++ "\n")) ++ rest).toList
        = line.toList ++ '\n' :: (String.join (lines.map (· ++ "\n")) ++ rest).toList := by
      simp
    rw [htext, List.splitOn_append_cons_self_of_not_mem (h line List.mem_cons_self),
      ih fun other hother => h other (List.mem_cons_of_mem line hother)]
    rfl

end PrependList
