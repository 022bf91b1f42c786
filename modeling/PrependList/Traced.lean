import PrependList.Log.Event
import PrependList.Memory

/-!
# Traced computations

What an operation on chains needs from its surroundings is memory for nodes, and somebody to tell
what happens. A `Traced α β` is a computation that may ask memory of type `α` for nodes, reports
events, and ends with a `β`.

The events are part of what it leaves and no part of what it sees: a computation can add to them and
cannot look at them, let alone at what anyone keeps of them. So whatever it computes is independent
of logging, also where one computation calls another that it knows nothing about.
-/

namespace PrependList

/-- What a computation leaves: its value, the memory, and the events in order. -/
@[ext]
structure Trace (α β : Type) where
  value : β
  memory : α
  events : List Event
  deriving DecidableEq, Repr

/-- The trace of a computation that began after these events. -/
def Trace.after {α β : Type} (trace : Trace α β) (events : List Event) : Trace α β :=
  { trace with events := events ++ trace.events }

namespace Trace

variable {α β : Type}

@[simp] theorem after_nil (trace : Trace α β) : trace.after [] = trace := rfl

theorem after_after (trace : Trace α β) (first second : List Event) :
    (trace.after second).after first = trace.after (first ++ second) := by
  simp [after]

end Trace

/-- A computation that may ask memory of type `α` for nodes, and reports events. -/
def Traced (α β : Type) : Type := α → Trace α β

namespace Traced

variable {α β γ : Type}

def run (act : Traced α β) (memory : α) : Trace α β := act memory

instance : Monad (Traced α) where
  pure value := fun memory => ⟨value, memory, []⟩
  bind act next := fun memory =>
    let trace := act memory
    (next trace.value trace.memory).after trace.events

/-- Reports an event. -/
def emit (event : Event) : Traced α Unit := fun memory => ⟨(), memory, [event]⟩

/-- Asks for one node; the value says whether it is granted. -/
def requestNode [Allocator α] : Traced α Bool := fun memory =>
  let (granted, memory) := Allocator.request memory
  ⟨granted, memory, []⟩

theorem ext {act other : Traced α β} (h : ∀ memory, act.run memory = other.run memory) :
    act = other := funext h

@[simp] theorem run_pure (value : β) (memory : α) :
    (pure value : Traced α β).run memory = ⟨value, memory, []⟩ := rfl

@[simp] theorem run_bind (act : Traced α β) (next : β → Traced α γ) (memory : α) :
    (act >>= next).run memory
      = ((next (act.run memory).value).run (act.run memory).memory).after
          (act.run memory).events := rfl

@[simp] theorem run_map (f : β → γ) (act : Traced α β) (memory : α) :
    (f <$> act).run memory
      = ⟨f (act.run memory).value, (act.run memory).memory, (act.run memory).events⟩ := by
  change ((⟨_, _, []⟩ : Trace α γ).after _) = _
  simp [Trace.after, run]

@[simp] theorem run_emit (event : Event) (memory : α) :
    (emit event : Traced α Unit).run memory = ⟨(), memory, [event]⟩ := rfl

@[simp] theorem run_requestNode [Allocator α] (memory : α) :
    (requestNode : Traced α Bool).run memory
      = ⟨(Allocator.request memory).1, (Allocator.request memory).2, []⟩ := rfl

instance : LawfulMonad (Traced α) := LawfulMonad.mk' (Traced α)
  (fun act => Traced.ext fun memory => run_map id act memory)
  (fun _ _ => rfl)
  (fun _ _ _ => Traced.ext fun _ => (Trace.after_after _ _ _).symm)

end Traced

end PrependList
