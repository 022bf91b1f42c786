import PrependList.Chain.Prepend
import PrependList.Proofs.Chain.Iteration
import PrependList.Proofs.Memory

/-!
# How a chain grows

A row of prepends is decided by the answers of the memory alone. If all are grants, all values go in
front and the events name the sizes one by one. Otherwise the row ends at the first refusal: the
values before it have gone in, the refused one and those after it have left no trace, and memory has
been asked once for each value up to the refused one.

Building is a row of prepends from the empty chain over the values in reverse, so the same two cases
decide it. Its main statement is `ofValues_outcome`.
-/

namespace PrependList.Chain

open Allocator

/-- The handle after the values went in front one after another. -/
def pushAll (chain : Chain) (values : List Int32) : Chain := values.foldl push chain

theorem nodes_pushAll (values : List Int32) :
    ∀ chain : Chain, (chain.pushAll values).nodes = values.reverse ++ chain.nodes := by
  induction values with
  | nil => intro chain; rfl
  | cons value values ih =>
    intro chain
    show ((chain.push value).pushAll values).nodes = _
    rw [ih, push, List.reverse_cons, List.append_assoc]
    rfl

theorem size_pushAll (values : List Int32) :
    ∀ chain : Chain, (chain.pushAll values).size = chain.size + values.length := by
  induction values with
  | nil => intro chain; rfl
  | cons value values ih =>
    intro chain
    show ((chain.push value).pushAll values).size = _
    rw [ih, push, List.length_cons]
    dsimp only
    omega

/-- The events of prepends that are all granted, on a chain of this size. -/
def growth (size : Nat) (values : List Int32) : List Event :=
  values.mapIdx fun i value => .prepended value (size + i + 1)

theorem growth_cons (size : Nat) (value : Int32) (values : List Int32) :
    growth size (value :: values)
      = .prepended value (size + 1) :: growth (size + 1) values := by
  rw [growth, List.mapIdx_cons, growth]
  congr 1
  refine congrArg (fun f => List.mapIdx f values) (funext fun i => funext fun value => ?_)
  rw [Nat.add_right_comm size 1 i, Nat.add_assoc size i 1]

theorem growth_zero (values : List Int32) :
    growth 0 values = values.mapIdx fun i value => .prepended value (i + 1) := by
  refine congrArg (fun f => List.mapIdx f values) (funext fun i => funext fun value => ?_)
  rw [Nat.zero_add]

variable {α : Type} [Allocator α]

theorem run_prependAll_of_granted (values : List Int32) :
    ∀ {memory : α} (chain : Chain), (∀ i < values.length, answer memory i = true) →
      (chain.prependAll values).run memory
        = ⟨.ok (chain.pushAll values), after memory values.length,
            growth chain.size values⟩ := by
  induction values with
  | nil => intro memory chain _; rfl
  | cons value values ih =>
    intro memory chain h
    have hfirst : (request memory).1 = true := h 0 (Nat.zero_lt_succ _)
    have hrest : ∀ i < values.length, answer (request memory).2 i = true :=
      fun i hi => h (i + 1) (Nat.succ_lt_succ hi)
    rw [prependAll, Traced.run_bind, run_prepend_of_granted hfirst]
    dsimp only
    rw [ih _ hrest, growth_cons]
    rfl

/-- **A row of prepends ends at the first refusal.** -/
theorem run_prependAll_of_refused (values : List Int32) :
    ∀ {memory : α} {j : Nat} (chain : Chain), j < values.length →
      (∀ i < j, answer memory i = true) → answer memory j = false →
      (chain.prependAll values).run memory
        = ⟨.error ⟨chain.pushAll (values.take j), .noNode⟩, after memory (j + 1),
            growth chain.size (values.take j)⟩ := by
  induction values with
  | nil => intro memory j chain hj _ _; exact absurd hj (Nat.not_lt_zero j)
  | cons value values ih =>
    intro memory j chain hj hbefore hat
    rw [prependAll, Traced.run_bind]
    cases j with
    | zero =>
      -- the first value is the refused one, and the rest is not tried
      have hfirst : (request memory).1 = false := hat
      rw [run_prepend_of_refused hfirst]
      rfl
    | succ j =>
      -- the first value is granted, and the refusal comes one request earlier in the rest
      have hfirst : (request memory).1 = true := hbefore 0 (Nat.zero_lt_succ j)
      have hrest : ∀ i < j, answer (request memory).2 i = true :=
        fun i hi => hbefore (i + 1) (Nat.succ_lt_succ hi)
      rw [run_prepend_of_granted hfirst]
      dsimp only
      rw [ih _ (Nat.lt_of_succ_lt_succ hj) hrest hat, List.take_succ_cons, growth_cons]
      rfl

/-! ## Building -/

/-- A chain built from these values. -/
theorem nodes_built (values : List Int32) : (empty.pushAll values.reverse).nodes = values := by
  rw [nodes_pushAll, List.reverse_reverse]
  exact List.append_nil values

theorem run_ofValues_of_granted {memory : α} {values : List Int32}
    (h : ∀ i < values.length, answer memory i = true) :
    (ofValues values).run memory
      = ⟨.ok (empty.pushAll values.reverse), after memory values.length,
          .building values.length :: growth 0 values.reverse⟩ := by
  have hlen : values.reverse.length = values.length := List.length_reverse
  have hrow := run_prependAll_of_granted values.reverse empty (by rw [hlen]; exact h)
  rw [ofValues, Traced.run_bind, Traced.run_emit]
  dsimp only
  rw [Traced.run_bind, hrow, hlen]
  simp only [Traced.run_pure, Trace.after, List.append_nil]
  rfl

theorem run_ofValues_of_refused {memory : α} {values : List Int32} {j : Nat}
    (hj : j < values.length) (hbefore : ∀ i < j, answer memory i = true)
    (hat : answer memory j = false) :
    (ofValues values).run memory
      = ⟨.error .noNode, after memory (j + 1),
          .building values.length :: growth 0 (values.reverse.take j)⟩ := by
  have hlen : values.reverse.length = values.length := List.length_reverse
  have hrow := run_prependAll_of_refused values.reverse empty (by rw [hlen]; exact hj) hbefore hat
  rw [ofValues, Traced.run_bind, Traced.run_emit]
  dsimp only
  rw [Traced.run_bind, hrow]
  simp only [Traced.run_pure, Trace.after, List.append_nil]
  rfl

/--
**What building comes to, for every plan of answers.**

It succeeds exactly if every value is granted its node, and the chain then reads like the values.
If the first refusal meets request `j`, counted from zero, memory is not asked again, and the events
are those of the last `j` values.
-/
theorem ofValues_outcome (values : List Int32) (memory : Answers) :
    let trace := (ofValues values).run memory
    let granted := fun i => memory.granted (memory.asked + i)
    ((∃ chain, trace.value = .ok chain) ↔ ∀ i < values.length, granted i = true)
      ∧ (∀ chain, trace.value = .ok chain →
          chain.cursor.Yields values ∧ chain.length = values.length
            ∧ trace.memory = { memory with asked := memory.asked + values.length }
            ∧ trace.events = .building values.length
                :: values.reverse.mapIdx fun i value => .prepended value (i + 1))
      ∧ ∀ j < values.length, (∀ i < j, granted i = true) → granted j = false →
          trace.value = .error (.allocationFailure nodeBytes)
            ∧ trace.memory = { memory with asked := memory.asked + (j + 1) }
            ∧ trace.events = .building values.length
                :: (values.reverse.take j).mapIdx fun i value => .prepended value (i + 1) := by
  intro trace granted
  have hanswer : ∀ i, answer memory i = granted i := Answers.answer_eq memory
  have hok : (∀ i < values.length, granted i = true) →
      trace = ⟨.ok (empty.pushAll values.reverse), after memory values.length,
        .building values.length :: growth 0 values.reverse⟩ :=
    fun h => run_ofValues_of_granted (fun i hi => (hanswer i).trans (h i hi))
  have herror : ∀ j < values.length, (∀ i < j, granted i = true) → granted j = false →
      trace = ⟨.error .noNode, after memory (j + 1),
        .building values.length :: growth 0 (values.reverse.take j)⟩ :=
    fun j hj hbefore hat => run_ofValues_of_refused hj
      (fun i hi => (hanswer i).trans (hbefore i hi)) ((hanswer j).trans hat)
  have hgranted : ∀ chain, trace.value = .ok chain → ∀ i < values.length, granted i = true := by
    intro chain hchain
    rcases granted_or_refused memory values.length with h | ⟨j, hj, hbefore, hat⟩
    · exact fun i hi => (hanswer i).symm.trans (h i hi)
    · -- a first refusal would have made an error of the result
      have h := herror j hj (fun i hi => (hanswer i).symm.trans (hbefore i hi))
        ((hanswer j).symm.trans hat)
      rw [h] at hchain
      exact absurd hchain (by simp)
  refine ⟨⟨fun ⟨chain, hchain⟩ => hgranted chain hchain, fun h => ?_⟩, ?_, ?_⟩
  · exact ⟨empty.pushAll values.reverse, by rw [hok h]⟩
  · intro chain hchain
    have h := hok (hgranted chain hchain)
    have hbuilt : chain = empty.pushAll values.reverse := by
      rw [h] at hchain
      exact (Except.ok.inj hchain).symm
    rw [h, hbuilt]
    refine ⟨?_, ?_, Answers.after_eq memory values.length, ?_⟩
    · exact Cursor.yields_iff.mpr (nodes_built values).symm
    · rw [length, size_pushAll, List.length_reverse]
      exact Nat.zero_add values.length
    · rw [growth_zero]
  · intro j hj hbefore hat
    rw [herror j hj hbefore hat]
    exact ⟨rfl, Answers.after_eq memory (j + 1), by rw [growth_zero]⟩

/-- Three nodes granted, and the second of three refused. -/
theorem ofValues_outcome_three :
    (∃ chain, ((ofValues [3, 1, 2]).run (⟨fun _ => true, 0⟩ : Answers)).value = .ok chain
        ∧ chain.cursor.Yields [3, 1, 2])
      ∧ ((ofValues [3, 1, 2]).run (⟨fun i => i != 1, 0⟩ : Answers)).value
          = .error (.allocationFailure 16)
      ∧ ((ofValues [3, 1, 2]).run (⟨fun i => i != 1, 0⟩ : Answers)).memory.asked = 2
      ∧ ((ofValues [3, 1, 2]).run (⟨fun i => i != 1, 0⟩ : Answers)).events
          = [.building 3, .prepended 2 1] := by
  obtain ⟨hdecided, hbuilt, _⟩ := ofValues_outcome [3, 1, 2] ⟨fun _ => true, 0⟩
  obtain ⟨chain, hchain⟩ := hdecided.mpr (fun _ _ => rfl)
  obtain ⟨hvalue, hmemory, hevents⟩ :=
    (ofValues_outcome [3, 1, 2] ⟨fun i => i != 1, 0⟩).2.2 1 (by decide) (by decide) rfl
  exact ⟨⟨chain, hchain, (hbuilt chain hchain).1⟩, hvalue, by rw [hmemory], hevents⟩

end PrependList.Chain
