import PrependList.Chain.Cursor
import PrependList.Chain.Walk

/-!
# What an iteration gives

A cursor hands out values by `next` and in no other way, so what it yields is said by following the
`next` steps to the end (`Yields`). For every cursor that is one list: the values ahead of it. The
count does not enter, which is why a count that is wrong could go unnoticed by `next` alone.

A walk announces each value before its visitor sees it, so the first event of a walk names the head,
whatever the visitor does. What a visitor is shown is made visible by `recording`, which lets it do
all it does and writes down its values.
-/

namespace PrependList

/-- Following `next` to the end gives these values. -/
inductive Cursor.Yields : Cursor → List Int32 → Prop where
  | done {cursor : Cursor} : cursor.next.1 = none → Yields cursor []
  | more {cursor : Cursor} {value : Int32} {values : List Int32} :
      cursor.next.1 = some value → Yields cursor.next.2 values → Yields cursor (value :: values)

theorem Cursor.yields_ahead (ahead : List Int32) :
    ∀ remaining : Nat, Yields ⟨ahead, remaining⟩ ahead := by
  induction ahead with
  | nil => intro remaining; exact Yields.done rfl
  | cons value ahead ih => intro remaining; exact Yields.more rfl (ih (remaining - 1))

/-- A cursor yields the values ahead of it and no other list. -/
theorem Cursor.yields_iff {cursor : Cursor} {values : List Int32} :
    cursor.Yields values ↔ values = cursor.ahead := by
  constructor
  · intro h
    -- each step of the derivation takes the first value off what is ahead
    induction h with
    | @done cursor hnone =>
      obtain ⟨ahead, remaining⟩ := cursor
      cases ahead with
      | nil => rfl
      | cons value ahead => exact absurd hnone (by simp [next])
    | @more cursor value values hsome _ ih =>
      obtain ⟨ahead, remaining⟩ := cursor
      cases ahead with
      | nil => exact absurd hsome (by simp [next])
      | cons first ahead =>
        have hfirst : first = value := Option.some.inj hsome
        have hrest : values = ahead := ih
        rw [hfirst, hrest]
  · intro h
    rw [h]
    exact yields_ahead cursor.ahead cursor.remaining

namespace Chain

variable {α β : Type}

theorem yields_cursor (chain : Chain) : chain.cursor.Yields chain.nodes :=
  Cursor.yields_iff.mpr rfl

theorem next_cursor (chain : Chain) : chain.cursor.next.1 = chain.head := by
  obtain ⟨nodes, size⟩ := chain
  cases nodes with
  | nil => rfl
  | cons value nodes => rfl

/-- The first event of a walk, for every visitor. -/
theorem head?_events_traverse (chain : Chain) (visit : Visitor α β) (state : β) (memory : α) :
    ((chain.traverse visit state).run memory).events.head? = chain.head.map Event.visiting := by
  obtain ⟨nodes, size⟩ := chain
  cases nodes with
  | nil => rfl
  | cons value nodes =>
    show ((walk visit state (value :: nodes)).run memory).events.head? = _
    rw [run_walk_cons]
    rfl

/-- A walk whose visitor asks for nothing and reports nothing is a fold. -/
theorem run_walk_pure (f : β → Int32 → β) (values : List Int32) :
    ∀ (state : β) (memory : α),
      (walk (fun state value => pure (f state value)) state values).run memory
        = ⟨values.foldl f state, memory, values.map Event.visiting⟩ := by
  induction values with
  | nil => intro state memory; rfl
  | cons value values ih =>
    intro state memory
    rw [run_walk_cons, Traced.run_pure]
    dsimp only
    rw [ih]
    rfl

/-- A checked walk with a visitor: its length is announced, and it cannot fail. -/
theorem run_tryTraverse (chain : Chain) (visit : Visitor α β) (state : β) (memory : α) :
    (chain.tryTraverse (some visit) state).run memory
      = let trace := (chain.traverse visit state).run memory
        ⟨.ok trace.value, trace.memory, .traversing chain.length :: trace.events⟩ := by
  rw [tryTraverse, Traced.run_bind, Traced.run_emit]
  dsimp only
  rw [Traced.run_bind]
  simp only [Traced.run_pure, Trace.after, List.append_nil, List.singleton_append]

/-- The visitor that does the same and keeps a record of the values it is shown. -/
def recording (visit : Visitor α β) : Visitor α (β × List Int32) := fun sofar value => do
  return (← visit sofar.1 value, sofar.2 ++ [value])

/-- Keeping a record changes nothing else. -/
theorem run_walk_recording (visit : Visitor α β) (values : List Int32) :
    ∀ (sofar : β × List Int32) (memory : α),
      (walk (recording visit) sofar values).run memory
        = let trace := (walk visit sofar.1 values).run memory
          ⟨(trace.value, sofar.2 ++ values), trace.memory, trace.events⟩ := by
  induction values with
  | nil => intro sofar memory; rw [List.append_nil]; rfl
  | cons value values ih =>
    intro sofar memory
    have hstep : (recording visit sofar value).run memory
        = let trace := (visit sofar.1 value).run memory
          ⟨(trace.value, sofar.2 ++ [value]), trace.memory, trace.events⟩ := by
      rw [recording, Traced.run_bind]
      simp only [Traced.run_pure, Trace.after, List.append_nil]
    rw [run_walk_cons, run_walk_cons, hstep]
    dsimp only
    rw [ih]
    dsimp only
    rw [List.append_assoc, List.singleton_append]
    rfl

theorem shown_walk (visit : Visitor α β) (values : List Int32) (sofar : β × List Int32)
    (memory : α) :
    ((walk (recording visit) sofar values).run memory).value.2 = sofar.2 ++ values := by
  rw [run_walk_recording]

/-- Every visitor is shown the nodes, in their order. -/
theorem shown_traverse (chain : Chain) (visit : Visitor α β) (state : β) (memory : α) :
    ((chain.traverse (recording visit) (state, [])).run memory).value.2 = chain.nodes :=
  shown_walk visit chain.nodes (state, []) memory

end Chain

end PrependList
