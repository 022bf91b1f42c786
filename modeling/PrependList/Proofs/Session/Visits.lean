import PrependList.Proofs.Session.Agreement
import PrependList.Proofs.Session.Logging

/-!
# What a walk does to its visitor

A walk and an iteration go through a chain in two ways: the walk follows the nodes, and the iteration
takes steps of a cursor that also counts. Here they are compared. A visitor ends in the state that
it has after a fold over the values that the cursor yields, and the events of the walk are, for each
value, the announcement and then whatever the visitor reports (`run_walk_eq`). That holds of every
visitor: it may keep any state, ask for nodes and report events of its own.

A checked walk says beforehand how many values there will be, and takes the number from the cached
size. That it is right rests on how the chain has come about, so the main statement is about chains
that a client can reach.
-/

namespace PrependList

/-- One call of a visitor: the state in which it was called, the value it was shown, and what it
reported itself. -/
structure Visit (β : Type) where
  state : β
  value : Int32
  events : List Event

/-- All that is reported for the call: the announcement, and behind it what the visitor reports. -/
def Visit.report {β : Type} (call : Visit β) : List Event := .visiting call.value :: call.events

namespace Chain

variable {α β : Type}

/-- The visitor alone sees the value. -/
def see (visit : Visitor α β) (sofar : β × α) (value : Int32) : β × α :=
  let trace := (visit sofar.1 value).run sofar.2
  (trace.value, trace.memory)

/-- The calls of a visitor that sees the values one after another. -/
def visits (visit : Visitor α β) : β × α → List Int32 → List (Visit β)
  | _, [] => []
  | sofar, value :: values =>
    ⟨sofar.1, value, ((visit sofar.1 value).run sofar.2).events⟩
      :: visits visit (see visit sofar value) values

/-- **A walk is a fold, with an announcement in front of each call.** -/
theorem run_walk_eq (visit : Visitor α β) (values : List Int32) :
    ∀ sofar : β × α,
      (walk visit sofar.1 values).run sofar.2
        = let last := values.foldl (see visit) sofar
          ⟨last.1, last.2, (visits visit sofar values).flatMap Visit.report⟩ := by
  induction values with
  | nil => intro sofar; rfl
  | cons value values ih =>
    intro sofar
    rw [run_walk_cons]
    -- the rest of the walk starts from what the visitor has left
    have hrest := ih (see visit sofar value)
    rw [show ((visit sofar.1 value).run sofar.2).value = (see visit sofar value).1 from rfl,
      show ((visit sofar.1 value).run sofar.2).memory = (see visit sofar value).2 from rfl, hrest]
    rfl

theorem length_visits (visit : Visitor α β) (values : List Int32) :
    ∀ sofar : β × α, (visits visit sofar values).length = values.length := by
  induction values with
  | nil => intro sofar; rfl
  | cons value values ih =>
    intro sofar
    rw [visits, List.length_cons, List.length_cons, ih]

/-- What walks over a chain of these values come to, for a visitor that starts in this state. -/
structure WalksThrough (chain : Chain) (values : List Int32) (visit : Visitor α β) (state : β)
    (memory : α) : Prop where
  /-- The visitor, and memory with it, ends where a fold over the values ends. -/
  folds : ((chain.traverse visit state).run memory).value = (values.foldl (see visit) (state, memory)).1
    ∧ ((chain.traverse visit state).run memory).memory
      = (values.foldl (see visit) (state, memory)).2
  /-- Each call is announced just before, and what the visitor reports comes before the next one. -/
  announces : ((chain.traverse visit state).run memory).events
    = (visits visit (state, memory) values).flatMap Visit.report
  /-- A checked walk cannot fail, and says first how many calls will follow. -/
  checked : (chain.tryTraverse (some visit) state).run memory
    = let trace := (chain.traverse visit state).run memory
      ⟨.ok trace.value, trace.memory,
        .traversing (visits visit (state, memory) values).length :: trace.events⟩
  /-- Without a visitor it is rejected before anything happens. -/
  missing : ((chain.tryTraverse none state).run memory : Trace α (Except ListError β))
    = ⟨.error (.preconditionViolation "try_traverse"), memory, []⟩
  /-- Every other walk, checked or not and whatever has become of memory, shows the visitor the same
  values. -/
  repeats : ∀ (check : Bool) (later : α), ∃ last,
    ((Client.walkChain check chain (recording visit) (state, [])).run later).value
      = .ok (last, values)

theorem run_tryTraverse_none (chain : Chain) (state : β) (memory : α) :
    ((chain.tryTraverse none state).run memory : Trace α (Except ListError β))
      = ⟨.error (.preconditionViolation "try_traverse"), memory, []⟩ := rfl

theorem Agrees.walksThrough {chain : Chain} (h : chain.Agrees) (visit : Visitor α β) (state : β)
    (memory : α) : WalksThrough chain chain.nodes visit state memory := by
  have hwalk : (chain.traverse visit state).run memory
      = let last := chain.nodes.foldl (see visit) (state, memory)
        ⟨last.1, last.2, (visits visit (state, memory) chain.nodes).flatMap Visit.report⟩ :=
    run_walk_eq visit chain.nodes (state, memory)
  have hlength : chain.length = (visits visit (state, memory) chain.nodes).length := by
    rw [length_visits]
    exact h
  refine {
    folds := by rw [hwalk]; exact ⟨rfl, rfl⟩
    announces := by rw [hwalk]
    checked := by rw [run_tryTraverse, hlength]
    missing := run_tryTraverse_none chain state memory
    repeats := fun check later => ?_ }
  rw [Client.run_walkChain, run_walk_recording]
  exact ⟨_, rfl⟩

end Chain

/-! ## The chain that is walked -/

namespace Client

variable {α : Type} [Allocator α] {n : Nat} {γ : Type} {visit : γ → Int32 → Client n γ}
  {slot : Fin n} {chain : Chain}

variable (α) in
/-- No call of the visitor changes what the slot holds. -/
def Spares (visit : γ → Int32 → Client n γ) (slot : Fin n) (chain : Chain) : Prop :=
  ∀ (state : γ) (value : Int32) (standing : Standing n), standing.slots.get slot = some chain →
    ((visit state value).run standing : Traced α _).Ensures fun result =>
      result.2.slots.get slot = some chain

/-- **A walk changes nothing in the slots that its visitor leaves alone**, so the next walk is over
the same chain. -/
theorem Spares.walk (h : Spares α visit slot chain) (checked : Bool) (start : γ)
    {standing : Standing n} (hslot : standing.slots.get slot = some chain) :
    ((Client.walk checked slot visit start .done).run standing : Traced α _).Ensures fun result =>
      result.2.slots.get slot = some chain := by
  rw [run, hslot]
  refine Traced.Ensures.bind
    (ensures_walkChain (I := fun sofar => sofar.2.slots.get slot = some chain) checked chain
      (fun sofar value hsofar => h sofar.1 value sofar.2 hsofar) hslot) (fun result hresult => ?_)
  obtain ⟨last, rfl, hlast⟩ := hresult
  exact Traced.Ensures.pure hlast

/-- A visitor that prepends to the chain in another slot. -/
theorem spares_prepend {target : Fin n} (hne : target ≠ slot) (recovery : Recovery)
    (chain : Chain) :
    Spares α (fun (_ : Unit) value => .call (.prepend target value recovery) fun _ => .done ())
      slot chain := by
  intro state value standing hslot
  refine Traced.Ensures.bind (P := fun outcome => outcome.2.get slot = some chain) ?_
    (fun outcome houtcome => Traced.Ensures.pure houtcome)
  have hother : ∀ content,
      (standing.slots.set target content target.isLt).get slot = some chain :=
    fun content => (Slots.get_set_of_ne hne content).trans hslot
  rw [Call.perform, Call.withChain]
  split
  · refine Traced.Ensures.bind (Traced.Ensures.any _) (fun result _ => ?_)
    cases result with
    | ok longer => exact Traced.Ensures.pure (hother _)
    | error refusal => exact Traced.Ensures.pure (hother _)
  · exact Traced.Ensures.pure hslot

end Client

namespace Chain

/--
**Walks and iterations agree on every chain that can be reached.**

An iteration yields certain values. For every visitor, whatever its state, the nodes it asks for and
the events it reports, walks are folds over these values, and the number that a checked walk
announces is theirs. In a slot the chain outlasts every walk whose visitor leaves the slot alone.
-/
theorem walksThrough_of_reachable {chain : Chain} (h : chain.Reachable) :
    ∃ values, chain.cursor.Yields values
      ∧ (∀ (α β : Type) (visit : Visitor α β) (state : β) (memory : α),
          WalksThrough chain values visit state memory)
      ∧ ∀ (α : Type) [Allocator α] (n : Nat) (γ : Type) (visit : γ → Int32 → Client n γ)
          (slot : Fin n), Client.Spares α visit slot chain →
          ∀ (checked : Bool) (start : γ) (standing : Standing n),
            standing.slots.get slot = some chain →
            ((Client.walk checked slot visit start .done).run standing : Traced α _).Ensures
              fun result => result.2.slots.get slot = some chain := by
  have hagrees : chain.Agrees := h.agrees
  refine ⟨chain.nodes, chain.yields_cursor, ?_, ?_⟩
  · intro α β visit state memory
    exact hagrees.walksThrough visit state memory
  · intro α _ n γ visit slot hspares checked start standing hslot
    exact hspares.walk checked start hslot

/-- One visitor prepends what it sees to a chain of its own, and the second value is refused. Another
one prepends to the next slot, and leaves the slot of the walk alone. -/
theorem walksThrough_of_reachable_prepending :
    let chain : Chain := ⟨[7, -1], 2⟩
    let visit : Visitor Budget Chain := fun sofar value => do
      return (← sofar.prependGranted value).2
    let transfer : Client 2 (Except ListError Unit) :=
      .walk true 0 (fun _ value => .call (.prepend 1 value .chain) fun _ => .done ()) () .done
    chain.Reachable
      ∧ (chain.tryTraverse (some visit) empty).run ⟨some 1⟩
        = ⟨.ok ⟨[7], 1⟩, ⟨some 0⟩, [.traversing 2, .visiting 7, .prepended 7 1, .visiting (-1)]⟩
      ∧ (transfer.run ⟨#v[some chain, some empty], []⟩ : Traced Budget _).Ensures fun result =>
        result.2.slots.get 0 = some chain := by
  intro chain visit transfer
  have hreachable : chain.Reachable :=
    ⟨Budget, inferInstance, 1, Unit, .call (.build 0 [7, -1]) fun _ => .done (), ⟨some 2⟩,
      Or.inl (by decide +kernel)⟩
  obtain ⟨values, hyields, hwalks, houtlasts⟩ := walksThrough_of_reachable hreachable
  have hvalues : values = [7, -1] := Cursor.yields_iff.mp hyields
  have hwalk := hwalks Budget Chain visit empty ⟨some 1⟩
  rw [hvalues] at hwalk
  refine ⟨hreachable, hwalk.checked.trans ?_, ?_⟩
  · dsimp only
    rw [hwalk.announces, hwalk.folds.1, hwalk.folds.2]
    rfl
  · exact houtlasts Budget 2 Unit _ 0 (Client.spares_prepend (by decide) .chain chain) true () _ rfl

end Chain

end PrependList
