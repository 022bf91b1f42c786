import PrependList.Demo.Basic
import PrependList.Session.Client

/-!
# Courses

Seen from outside, a client does one thing after another: it makes calls, and walks that it started
say how long they are and which value they have come to. Calls that visitors make stand in the same
row, between two values. So a run is a course of deeds, whoever decides on them, and a demonstration
can be one of them too.

A `Moment` is how things stand between two deeds. It has all that a deed can depend on or change: the
slots, the memory, and the events so far.
-/

namespace PrependList

/-- How things stand between two deeds. -/
structure Moment (α : Type) (n : Nat) where
  slots : Slots n
  memory : α
  /-- All that has happened so far, in order. -/
  events : List Event

/-- Something that is done with the library. -/
inductive Deed (n : Nat) where
  | call (call : Call n)
  | demo {σ : Type} (writer : Writer σ) (out : Outlet σ)
  /-- A checked walk says how long it is going to be. -/
  | announce (length : Nat)
  /-- A walk comes to a value. -/
  | visit (value : Int32)

/-- What comes back from a deed. -/
inductive Upshot where
  | answer (answer : Answer)
  | result (result : Except Failure Unit)
  | nothing

/-- Does it: what comes back, and the slots afterwards. -/
def Deed.act {α : Type} [Allocator α] {n : Nat} (slots : Slots n) :
    Deed n → Traced α (Upshot × Slots n)
  | call request => do
    let (answer, slots) ← request.perform slots
    return (.answer answer, slots)
  | demo writer out => do
    let (result, _) ← Demo.run writer out
    return (.result result, slots)
  | announce length => do
    Traced.emit (.traversing length)
    return (.nothing, slots)
  | visit value => do
    Traced.emit (.visiting value)
    return (.nothing, slots)

namespace Moment

variable {α : Type} [Allocator α] {n : Nat}

/-- What comes back from a deed that is done now, and the moment after it. -/
def does (here : Moment α n) (deed : Deed n) : Upshot × Moment α n :=
  let trace := (deed.act here.slots).run here.memory
  (trace.value.1, ⟨trace.value.2, trace.memory, here.events ++ trace.events⟩)

/-- The moment after a course. -/
def after (here : Moment α n) (deeds : List (Deed n)) : Moment α n :=
  deeds.foldl (fun here deed => (here.does deed).2) here

/-- The answers to the calls of a course, each with the slots after it. -/
def outcomes (here : Moment α n) : List (Deed n) → List (Answer × Slots n)
  | [] => []
  | deed :: deeds =>
    match here.does deed with
    | (.answer answer, there) => (answer, there.slots) :: there.outcomes deeds
    | (_, there) => there.outcomes deeds

theorem after_cons (here : Moment α n) (deed : Deed n) (deeds : List (Deed n)) :
    here.after (deed :: deeds) = (here.does deed).2.after deeds := rfl

theorem after_append (here : Moment α n) (first second : List (Deed n)) :
    here.after (first ++ second) = (here.after first).after second :=
  List.foldl_append

theorem outcomes_append (first second : List (Deed n)) :
    ∀ here : Moment α n, here.outcomes (first ++ second)
      = here.outcomes first ++ (here.after first).outcomes second := by
  induction first with
  | nil => intro here; rfl
  | cons deed first ih =>
    intro here
    rw [List.cons_append, outcomes, outcomes, after_cons]
    rcases here.does deed with ⟨upshot, there⟩
    cases upshot with
    | answer answer => exact congrArg (List.cons _) (ih there)
    | result result => exact ih there
    | nothing => exact ih there

end Moment

end PrependList
