import PrependList.Proofs.Writer.Delivery
import PrependList.Proofs.Writer.Interruption
import PrependList.Writer.Script

/-!
# Writers that accept everything

A writer accepts everything if no offer fails and each takes something. How much an offer takes is
the writer's affair: all at once, or a character at a time. A text is then taken in no more offers
than it has characters, so nothing that is printed fails, and what is written is what was to be
written.

Such a writer needs no patience. Those that interrupt now and then are the business of
`Outlet.Completes`.
-/

namespace PrependList

variable {σ : Type} {writer : Writer σ} {Good : σ → Prop}

/-- In a good state every text that is not empty is taken, in part at least, and the writer stays
good. -/
def Writer.Accepts (writer : Writer σ) (Good : σ → Prop) : Prop :=
  ∀ state, Good state → ∀ (c : Char) (cs : List Char),
    ∃ count next, writer.reply state (c :: cs) = (.took (count + 1), next) ∧ Good next

/-! ## Scripts -/

/-- The act takes some of every text that is not empty. -/
def Act.Takes : Act → Prop
  | takeAll => True
  | takeUpTo count => 0 < count
  | fail _ => False

/-- There is no limit to the room, and all acts take something. -/
structure Script.Unfailing (script : Script) : Prop where
  room : script.room = none
  acts : ∀ act ∈ script.acts, act.Takes
  rest : script.rest.Takes

theorem Act.exists_reply {act : Act} (h : act.Takes) (length : Nat) :
    ∃ count, act.reply (length + 1) = .took (count + 1) := by
  cases act with
  | takeAll => exact ⟨length, rfl⟩
  | takeUpTo count =>
    have hpos : 0 < count := h
    have hmin : min count (length + 1) = min count (length + 1) - 1 + 1 := by omega
    exact ⟨min count (length + 1) - 1, congrArg Reply.took hmin⟩
  | fail _ => cases h

/-- **An unfailing script accepts everything**, in the parts that it says. -/
theorem Script.accepts_unfailing : Script.writer.Accepts Script.Unfailing := by
  intro script h c cs
  have hact : script.act.Takes := by
    rw [Script.act]
    cases hacts : script.acts with
    | nil => exact h.rest
    | cons act acts => exact h.acts act (hacts ▸ List.mem_cons_self)
  have hfits : script.fits (c :: cs).length = true := by
    rw [Script.fits, h.room]
    rfl
  obtain ⟨count, hcount⟩ := Act.exists_reply hact cs.length
  refine ⟨count, script.after (count + 1), ?_, ?_⟩
  · show script.reply (c :: cs) = _
    rw [Script.reply, if_pos hfits, List.length_cons, hcount]
  · refine ⟨?_, fun act hmem => h.acts act (List.mem_of_mem_tail hmem), h.rest⟩
    show script.room.map (· - (count + 1)) = none
    rw [h.room]
    rfl

/-! ## Texts -/

namespace Outlet

/-- **As many offers as there are characters are enough.** -/
theorem exists_writeWithin (h : writer.Accepts Good) (limit : Nat) :
    ∀ {text : List Char} {out : Outlet σ}, text.length ≤ limit → Good out.state →
      ∃ last, writeWithin writer limit text out = (.ok (), last) ∧ Good last.state := by
  induction limit with
  | zero =>
    intro text out hlength hgood
    have htext : text = [] := List.length_eq_zero_iff.mp (Nat.le_zero.mp hlength)
    exact ⟨out, by rw [htext, writeWithin_nil], hgood⟩
  | succ limit ih =>
    intro text out hlength hgood
    cases text with
    | nil => exact ⟨out, by rw [writeWithin_nil], hgood⟩
    | cons c cs =>
      obtain ⟨count, next, hreply, hnext⟩ := h out.state hgood c cs
      have hshort : (cs.drop count).length ≤ limit := by
        rw [List.length_drop]
        rw [List.length_cons] at hlength
        omega
      rw [writeWithin_of_rest hreply rfl]
      exact ih hshort hnext

theorem exists_writeAll (h : writer.Accepts Good) (out : Outlet σ) (hgood : Good out.state)
    (text : List Char) :
    ∃ last, out.writeAll writer text = (.ok (), last) ∧ Good last.state :=
  exists_writeWithin h _ (Nat.le_add_left _ _) hgood

theorem exists_writePieces (h : writer.Accepts Good) (texts : List (List Char)) :
    ∀ out : Outlet σ, Good out.state →
      ∃ last, out.writePieces writer texts = (.ok (), last) ∧ Good last.state := by
  induction texts with
  | nil => intro out hgood; exact ⟨out, rfl, hgood⟩
  | cons text texts ih =>
    intro out hgood
    obtain ⟨middle, hmiddle, hgood⟩ := exists_writeAll h out hgood text
    rw [writePieces, hmiddle]
    exact ih middle hgood

end Outlet

/-! ## Values -/

namespace Print

theorem exists_int (h : writer.Accepts Good) (out : Outlet σ) (hgood : Good out.state)
    (value : Int32) : ∃ last, int writer out value = (.ok (), last) ∧ Good last.state :=
  Outlet.exists_writePieces h (pieces value) out hgood

/-- **All values are printed**, and their texts are written one after another. -/
theorem exists_ints (h : writer.Accepts Good) (values : List Int32) :
    ∀ out : Outlet σ, Good out.state →
      ∃ last, ints writer out values = (values.map fun _ => .ok (), last)
        ∧ last.written = out.written ++ values.flatMap text := by
  induction values with
  | nil => intro out _; exact ⟨out, rfl, (List.append_nil _).symm⟩
  | cons value values ih =>
    intro out hgood
    obtain ⟨middle, hmiddle, hgood⟩ := exists_int h out hgood value
    have hdelivers := delivers_int writer out value
    rw [hmiddle] at hdelivers
    obtain ⟨last, hlast, hwritten⟩ := ih middle hgood
    refine ⟨last, ?_, ?_⟩
    · rw [ints, hmiddle]
      dsimp only
      rw [hlast]
      rfl
    · rw [hwritten, hdelivers.written_of_ok, List.append_assoc, List.flatMap_cons]

end Print

end PrependList
