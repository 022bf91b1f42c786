import PrependList.Chain.Error
import PrependList.Traced

/-!
# Growing a chain

A prepend asks for one node before anything else happens. If it is refused, the chain comes back
inside the error and nothing is recorded; if it is granted, the value goes in front and the event
names the new size. Everything that grows a chain is made of prepends:

* `prependAll` takes values one after another and stops at the first refusal;
* `prependGranted` skips a refused value and goes on with the chain it had;
* `ofValues` builds a chain that reads like its input, by prepending from the last value to the
  first. A refusal on the way loses the part that was built, but not the nodes it was asked for.
-/

namespace PrependList.Chain

variable {α : Type} [Allocator α]

def prepend (chain : Chain) (value : Int32) : Traced α (Except PrependError Chain) := do
  if ← Traced.requestNode then
    Traced.emit (.prepended value (chain.size + 1))
    return .ok (chain.push value)
  else
    return .error ⟨chain, .noNode⟩

theorem run_prepend_of_granted {memory : α} (h : (Allocator.request memory).1 = true)
    (chain : Chain) (value : Int32) :
    (chain.prepend value).run memory
      = ⟨.ok (chain.push value), (Allocator.request memory).2,
          [.prepended value (chain.size + 1)]⟩ := by
  simp [prepend, h, Trace.after]

theorem run_prepend_of_refused {memory : α} (h : (Allocator.request memory).1 = false)
    (chain : Chain) (value : Int32) :
    (chain.prepend value).run memory
      = ⟨.error ⟨chain, .noNode⟩, (Allocator.request memory).2, []⟩ := by
  simp [prepend, h]

/-- Prepends the values in order, up to the first refusal. -/
def prependAll (chain : Chain) : List Int32 → Traced α (Except PrependError Chain)
  | [] => return .ok chain
  | value :: values => do
    match ← chain.prepend value with
    | .ok chain => chain.prependAll values
    | .error refusal => return .error refusal

/-- The chain after a prepend if it was granted, the chain before it if not; and which it was. -/
def prependGranted (chain : Chain) (value : Int32) : Traced α (Bool × Chain) := do
  match ← chain.prepend value with
  | .ok chain => return (true, chain)
  | .error refusal => return (false, refusal.chain)

/-- The chain that holds the values in their order. -/
def ofValues (values : List Int32) : Traced α (Except ListError Chain) := do
  Traced.emit (.building values.length)
  return (← empty.prependAll values.reverse).mapError PrependError.cause

end PrependList.Chain
