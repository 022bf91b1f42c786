import PrependList.Session.Call

/-!
# Clients

Whoever uses the library makes calls on slots, looks at the answers, and decides what to do next. A
`Client` is such a program, with all its branches. It can also walk a chain with a visitor that is a
program of its own: it makes calls while the walk goes on, starts walks inside the walk, and carries
a state from one value to the next.

The run of a client keeps a history, with the answer to every call and the slots as they were just
after it, the latest first. Calls of visitors are in it like all others, so a statement about the
history also speaks of the moments in the middle of a walk.
-/

namespace PrependList

/-- A program that works on `n` slots and ends with a `β`. -/
inductive Client (n : Nat) : Type → Type 1 where
  | done {β : Type} (value : β) : Client n β
  /-- Make a call, and go on according to the answer. -/
  | call {β : Type} (call : Call n) (next : Answer → Client n β) : Client n β
  /-- Walk the chain that is in the slot when the walk starts. A checked walk says its length first.
  A vacant slot is walked like an empty chain, without a word. -/
  | walk {β γ : Type} (checked : Bool) (slot : Fin n) (visit : γ → Int32 → Client n γ) (start : γ)
      (next : Except ListError γ → Client n β) : Client n β

/-- The slots, and how they have come about. -/
structure Standing (n : Nat) where
  slots : Slots n
  /-- The answer to each call and the slots after it, the latest first. -/
  history : List (Answer × Slots n)

namespace Standing

variable {n : Nat}

/-- All slots are vacant and no call has been made. -/
def fresh : Standing n := ⟨Vector.replicate n none, []⟩

/-- After one more call. -/
def note (standing : Standing n) (outcome : Answer × Slots n) : Standing n :=
  ⟨outcome.2, outcome :: standing.history⟩

end Standing

namespace Client

variable {n : Nat}

/-- Prepends every value of one slot's chain to the chain of another, in the course of a walk. -/
def transfer (source target : Fin n) (recovery : Recovery) : Client n Unit :=
  .walk false source (fun _ value => .call (.prepend target value recovery) fun _ => .done ()) ()
    fun _ => .done ()

variable {α : Type}

/-- Walks the chain, checked or not. -/
def walkChain {β : Type} (checked : Bool) (chain : Chain) (visit : Chain.Visitor α β) (state : β) :
    Traced α (Except ListError β) := do
  if checked then chain.tryTraverse (some visit) state
  else return .ok (← chain.traverse visit state)

/-- Runs the client: its value, and how things stand at the end. -/
def run [Allocator α] {β : Type} : Client n β → Standing n → Traced α (β × Standing n)
  | .done value, standing => return (value, standing)
  | .call request next, standing => do
    let outcome ← request.perform standing.slots
    (next outcome.1).run (standing.note outcome)
  | .walk checked slot visit start next, standing =>
    match standing.slots.get slot with
    | none => (next (.ok start)).run standing
    | some chain => do
      let step := fun (sofar : _ × Standing n) value => (visit sofar.1 value).run sofar.2
      match ← walkChain checked chain step (start, standing) with
      | .ok (state, standing) => (next (.ok state)).run standing
      | .error error => (next (.error error)).run standing

end Client

end PrependList
