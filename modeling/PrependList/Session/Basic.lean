import PrependList.Session.Call

/-!
# Sessions

A session is a run of calls on slots, with one memory for all of them. Between calls the memory can
be replaced and the threshold of the log can be changed. A step of the run says everything about one
operation: what it answered, what happened, what of that was logged, and how things stand after it.
-/

namespace PrependList

structure Session (α : Type) (n : Nat) where
  slots : Slots n
  memory : α
  threshold : Level
  deriving DecidableEq

namespace Session

inductive Op (α : Type) (n : Nat) where
  | call (call : Call n)
  | setMemory (memory : α)
  | setThreshold (threshold : Level)
  deriving DecidableEq, Repr

/-- One operation of a run. -/
structure Step (α : Type) (n : Nat) where
  answer : Answer
  /-- All that happened, in order. -/
  events : List Event
  /-- The events that were kept. -/
  logged : List Event
  after : Session α n

variable {α : Type} {n : Nat}

/-- All slots are vacant and nothing is logged. -/
def fresh (memory : α) : Session α n := ⟨Vector.replicate n none, memory, .off⟩

def step [Allocator α] (session : Session α n) : Op α n → Step α n
  | .call call =>
    let trace := (call.perform session.slots).run session.memory
    let (answer, slots) := trace.value
    { answer
      events := trace.events
      logged := session.threshold.keep trace.events
      after := { session with slots, memory := trace.memory } }
  | .setMemory memory => ⟨.done, [], [], { session with memory }⟩
  | .setThreshold threshold => ⟨.done, [], [], { session with threshold }⟩

/-- The operations one after another. -/
def run [Allocator α] (session : Session α n) : List (Op α n) → List (Step α n)
  | [] => []
  | op :: ops =>
    let step := session.step op
    step :: step.after.run ops

end Session

end PrependList
