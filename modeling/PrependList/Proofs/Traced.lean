import PrependList.Chain.Walk

/-!
# What holds whatever memory answers

An invariant of chains says nothing about memory or events: it is a property of the value that a
computation ends with, and has to hold for every memory that the computation may meet. `Ensures`
says so. It goes through `>>=`, and so through walks: a property that one call of the visitor keeps
is kept by the walk.
-/

namespace PrependList

namespace Traced

variable {α β γ : Type}

/-- On every memory the computation ends with a value that has the property. -/
def Ensures (act : Traced α β) (P : β → Prop) : Prop := ∀ memory, P (act.run memory).value

theorem Ensures.any (act : Traced α β) : act.Ensures fun _ => True := fun _ => trivial

theorem Ensures.pure {value : β} {P : β → Prop} (h : P value) :
    (pure value : Traced α β).Ensures P :=
  fun _ => h

theorem Ensures.bind {act : Traced α β} {next : β → Traced α γ} {P : β → Prop} {Q : γ → Prop}
    (h : act.Ensures P) (hnext : ∀ value, P value → (next value).Ensures Q) :
    (act >>= next).Ensures Q := by
  intro memory
  rw [run_bind]
  exact hnext _ (h memory) _

end Traced

namespace Chain

variable {α β : Type} {visit : Visitor α β} {I : β → Prop}

/-- **What one call of the visitor keeps, a walk keeps.** -/
theorem ensures_walk (hvisit : ∀ state value, I state → (visit state value).Ensures I)
    (values : List Int32) : ∀ {state : β}, I state → (walk visit state values).Ensures I := by
  induction values with
  | nil => intro state h memory; exact h
  | cons value values ih =>
    intro state h memory
    rw [run_walk_cons]
    exact ih (hvisit state value h memory) _

theorem ensures_traverse (chain : Chain)
    (hvisit : ∀ state value, I state → (visit state value).Ensures I) {state : β} (h : I state) :
    (chain.traverse visit state).Ensures I :=
  ensures_walk hvisit chain.nodes h

/-- With a visitor a checked walk cannot fail. -/
theorem ensures_tryTraverse (chain : Chain)
    (hvisit : ∀ state value, I state → (visit state value).Ensures I) {state : β} (h : I state) :
    (chain.tryTraverse (some visit) state).Ensures fun result =>
      ∃ last, result = .ok last ∧ I last := by
  intro memory
  exact ⟨_, rfl, ensures_traverse chain hvisit h memory⟩

end Chain

end PrependList
