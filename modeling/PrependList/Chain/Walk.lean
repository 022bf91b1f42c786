import PrependList.Chain.Error
import PrependList.Traced

/-!
# Walks

A walk hands every value, from head to tail, to a visitor, and cannot be stopped by it. A visitor is
a state and a step: the step is a computation of its own, so a visitor can prepend to another chain while the
walk goes on. Each value is announced before the visitor sees it.

`tryTraverse` is the walk for callers that may have no visitor. It checks that first, and says how
long the walk will be before it starts.
-/

namespace PrependList.Chain

variable {α β : Type}

/-- What a visitor does with one value. -/
abbrev Visitor (α β : Type) := β → Int32 → Traced α β

/-- Hands the values to the visitor one after another, each announced before. -/
def walk (visit : Visitor α β) (state : β) (values : List Int32) : Traced α β :=
  values.foldlM (fun state value => do Traced.emit (.visiting value); visit state value) state

@[simp] theorem run_walk_nil (visit : Visitor α β) (state : β) (memory : α) :
    (walk visit state []).run memory = ⟨state, memory, []⟩ := rfl

theorem run_walk_cons (visit : Visitor α β) (state : β) (value : Int32) (values : List Int32)
    (memory : α) :
    (walk visit state (value :: values)).run memory
      = ((walk visit ((visit state value).run memory).value values).run
            ((visit state value).run memory).memory).after
          (.visiting value :: ((visit state value).run memory).events) := rfl

def traverse (chain : Chain) (visit : Visitor α β) (state : β) : Traced α β :=
  walk visit state chain.nodes

def tryTraverse (chain : Chain) (visit? : Option (Visitor α β)) (state : β) :
    Traced α (Except ListError β) := do
  match visit? with
  | none => return .error (.preconditionViolation "try_traverse")
  | some visit =>
    Traced.emit (.traversing chain.length)
    return .ok (← chain.traverse visit state)

end PrependList.Chain
