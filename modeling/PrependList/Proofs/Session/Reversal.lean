import PrependList.Proofs.Chain.Reversal
import PrependList.Proofs.Session.Agreement

/-!
# Reversals and copies of chains in slots

A reversal prepends in the course of a walk, and a copy is built from what an iteration yields, so
the one takes the order round and the other keeps it. For a chain that a client can reach both are
decided by the answers of the memory alone. If none of these is a refusal, two reversals undo each
other and a copy reads like the chain.

In a slot neither call touches any chain but the one that it replaces.
-/

namespace PrependList

/-! ## The other slots -/

namespace Call

variable {α : Type} {n : Nat} {slots : Slots n} {slot target : Fin n} {content : Option Chain}

theorem ensures_get_withChain (h : slots.get slot = content) (source : Fin n)
    {act : Chain → Traced α (Answer × Slots n)}
    (hact : ∀ chain, (act chain).Ensures fun outcome => outcome.2.get slot = content) :
    (withChain slots source act).Ensures fun outcome => outcome.2.get slot = content := by
  unfold withChain
  split
  · exact hact _
  · exact Traced.Ensures.pure h

variable [Allocator α]

theorem ensures_get_reverse (h : slots.get slot = content) (hne : target ≠ slot) (source : Fin n) :
    ((reverse source target).perform slots : Traced α _).Ensures fun outcome =>
      outcome.2.get slot = content := by
  refine ensures_get_withChain h source (fun chain => ?_)
  exact Traced.Ensures.bind (Traced.Ensures.any _) (fun reversal _ =>
    Traced.Ensures.pure ((Slots.get_set_of_ne hne _).trans h))

theorem ensures_get_copy (h : slots.get slot = content) (hne : target ≠ slot) (source : Fin n) :
    ((copy source target).perform slots : Traced α _).Ensures fun outcome =>
      outcome.2.get slot = content := by
  refine ensures_get_withChain h source (fun chain => ?_)
  refine Traced.Ensures.bind (Traced.Ensures.any _) (fun result _ => ?_)
  cases result with
  | ok made => exact Traced.Ensures.pure ((Slots.get_set_of_ne hne _).trans h)
  | error error => exact Traced.Ensures.pure h

end Call

/-! ## Chains that can be reached -/

namespace Chain

open Allocator

/--
**Reversals and copies of every chain that can be reached.**

A reversal comes to what memory grants, in reverse, with the refusals counted and every grant
reported behind the announcement of its value. Without refusals the reversal of the reversal, and
the chain that is built from what an iteration yields, read like the first chain. That one stays in
its slot whatever is reversed or copied into another.
-/
theorem reversals_of_reachable {chain : Chain} (h : chain.Reachable) :
    ∃ values, chain.cursor.Yields values
      ∧ (∀ (α : Type) [Allocator α] (memory : α),
          Reverses values memory (chain.reverse.run memory))
      ∧ (∀ (α : Type) [Allocator α] (memory later : α),
          (∀ i < values.length, answer memory i = true) →
          (∀ i < values.length, answer later i = true) →
          let once := (chain.reverse.run memory).value
          let twice := (once.chain.reverse.run later).value
          once.refusals = 0 ∧ twice.refusals = 0 ∧ twice.chain.ReadsLike chain)
      ∧ (∀ (α : Type) [Allocator α] (memory : α),
          (∀ i < values.length, answer memory i = true) →
          ∃ copy, ((ofValues chain.values).run memory).value = .ok copy ∧ copy.ReadsLike chain)
      ∧ ∀ (α : Type) [Allocator α] (n : Nat) (slots : Slots n) (slot source target : Fin n),
          slots.get slot = some chain → target ≠ slot →
          ∀ call ∈ [Call.reverse source target, Call.copy source target],
            (call.perform slots : Traced α _).Ensures fun outcome =>
              outcome.2.get slot = some chain := by
  have hagrees : chain.Agrees := h.agrees
  refine ⟨chain.nodes, chain.yields_cursor, ?_, ?_, ?_, ?_⟩
  · intro α _ memory
    exact chain.reverses memory
  · intro α _ memory later hmemory hlater once twice
    have honce : once = ⟨0, empty.pushAll chain.nodes⟩ := run_reverse_of_granted hmemory
    have htwice : twice = ⟨0, chain⟩ := hagrees.reverse_reverse hmemory hlater
    rw [honce, htwice]
    exact ⟨rfl, rfl, ReadsLike.refl chain⟩
  · intro α _ memory hmemory
    exact ⟨chain, hagrees.ofValues_values hmemory, ReadsLike.refl chain⟩
  · intro α _ n slots slot source target hslot hne call hcall
    rcases List.mem_cons.mp hcall with rfl | hcopy
    · exact Call.ensures_get_reverse hslot hne source
    · rw [List.mem_singleton.mp hcopy]
      exact Call.ensures_get_copy hslot hne source

/-- The second of three values is refused in a reversal, and none where memory has no limit. -/
theorem reversals_of_reachable_three :
    let chain : Chain := ⟨[7, -1, 5], 3⟩
    let trace := chain.reverse.run (⟨fun i => i != 1, 0⟩ : Answers)
    let once := (chain.reverse.run Budget.unlimited).value
    chain.Reachable
      ∧ trace.value.chain.cursor.Yields [5, 7]
      ∧ trace.value.refusals = 1
      ∧ trace.events = [.visiting 7, .prepended 7 1, .visiting (-1), .visiting 5, .prepended 5 2]
      ∧ (once.chain.reverse.run Budget.unlimited).value.chain.ReadsLike chain
      ∧ (∃ copy, ((ofValues chain.values).run Budget.unlimited).value = .ok copy
          ∧ copy.ReadsLike chain)
      ∧ ((Call.reverse 0 1).perform #v[some chain, none] : Traced Budget _).Ensures fun outcome =>
          outcome.2.get 0 = some chain := by
  intro chain trace once
  have hreachable : chain.Reachable :=
    ⟨Budget, inferInstance, 1, Unit, .call (.build 0 [7, -1, 5]) fun _ => .done (), ⟨some 3⟩,
      Or.inl (by decide +kernel)⟩
  obtain ⟨values, hyields, hreverses, htwice, hcopy, hslots⟩ := reversals_of_reachable hreachable
  have hvalues : values = [7, -1, 5] := Cursor.yields_iff.mp hyields
  rw [hvalues] at hreverses htwice hcopy
  have hgrants : ∀ i < 3, answer Budget.unlimited i = true := fun i _ => Budget.answer_unlimited i
  have hrefused := hreverses Answers ⟨fun i => i != 1, 0⟩
  exact ⟨hreachable, hrefused.yields, hrefused.refusals, hrefused.events,
    (htwice Budget Budget.unlimited Budget.unlimited hgrants hgrants).2.2,
    hcopy Budget Budget.unlimited hgrants,
    hslots Budget 2 #v[some chain, none] 0 0 1 rfl (by decide) _ List.mem_cons_self⟩

end Chain

end PrependList
