import PrependList.Memory

/-!
# Requests in a row

An operation that needs several nodes asks for one after another, so it is the sequence of answers
that decides what becomes of it. `answer` is that sequence, `after` the memory once a number of
answers have been given. Both memories have closed forms for them: `Answers` answers by its plan and
counts, a `Budget` says yes until it is spent.
-/

namespace PrependList

namespace Allocator

variable {α : Type} [Allocator α]

/-- The memory after so many requests. -/
def after (memory : α) : Nat → α
  | 0 => memory
  | count + 1 => after (request memory).2 count

/-- The answer to the request that comes after `earlier` others. -/
def answer (memory : α) (earlier : Nat) : Bool := (request (after memory earlier)).1

/-- **A finite number of requests is granted throughout, or there is a first refusal.** -/
theorem granted_or_refused (memory : α) (count : Nat) :
    (∀ i < count, answer memory i = true)
      ∨ ∃ j < count, (∀ i < j, answer memory i = true) ∧ answer memory j = false := by
  induction count with
  | zero => exact Or.inl (fun i hi => absurd hi (Nat.not_lt_zero i))
  | succ count ih =>
    rcases ih with hall | ⟨j, hj, hbefore, hat⟩
    · -- none of the earlier ones was refused, so the last one decides
      cases hlast : answer memory count with
      | true =>
        refine Or.inl (fun i hi => ?_)
        rcases Nat.lt_succ_iff_lt_or_eq.mp hi with hlt | heq
        · exact hall i hlt
        · rw [heq]; exact hlast
      | false => exact Or.inr ⟨count, Nat.lt_succ_self count, hall, hlast⟩
    · exact Or.inr ⟨j, Nat.lt_succ_of_lt hj, hbefore, hat⟩

end Allocator

namespace Answers

theorem after_eq (memory : Answers) (count : Nat) :
    Allocator.after memory count = { memory with asked := memory.asked + count } := by
  induction count generalizing memory with
  | zero => rfl
  | succ count ih =>
    rw [Allocator.after, ih]
    simp only [Allocator.request, request]
    congr 1
    omega

theorem answer_eq (memory : Answers) (earlier : Nat) :
    Allocator.answer memory earlier = memory.granted (memory.asked + earlier) := by
  rw [Allocator.answer, after_eq]
  rfl

end Answers

namespace Budget

theorem after_unlimited (count : Nat) : Allocator.after unlimited count = unlimited := by
  induction count with
  | zero => rfl
  | succ count ih => exact ih

theorem answer_unlimited (earlier : Nat) : Allocator.answer unlimited earlier = true := by
  rw [Allocator.answer, after_unlimited]
  rfl

theorem after_some (left count : Nat) :
    Allocator.after (⟨some left⟩ : Budget) count = ⟨some (left - count)⟩ := by
  induction count generalizing left with
  | zero => rfl
  | succ count ih =>
    cases left with
    | zero =>
      -- a refusal leaves a spent budget as it is
      show Allocator.after (⟨some 0⟩ : Budget) count = _
      rw [ih, Nat.zero_sub, Nat.zero_sub]
    | succ left =>
      show Allocator.after (⟨some left⟩ : Budget) count = _
      rw [ih, Nat.succ_sub_succ]

theorem answer_some (left earlier : Nat) :
    Allocator.answer (⟨some left⟩ : Budget) earlier = decide (earlier < left) := by
  rw [Allocator.answer, after_some]
  cases hrest : left - earlier with
  | zero =>
    show false = decide (earlier < left)
    rw [decide_eq_false (by omega)]
  | succ rest =>
    show true = decide (earlier < left)
    rw [decide_eq_true (by omega)]

end Budget

end PrependList
