import PrependList.Chain.Prepend
import PrependList.Chain.Walk
import PrependList.Print

/-!
# The demonstration

Builds a chain of five values, writes a banner, and walks the chain to print each value. The visitor
cannot stop the walk, so after the first failure it lets the remaining values pass; the failure is
reported once the walk is over.

Each step that can fail has a stage of its own. Whoever reads a failure learns the stage first and
the cause second.
-/

namespace PrependList

/-- What was being done when something failed. -/
inductive Stage where
  | building
  | banner
  | walking
  | printing
  | flushing
  deriving DecidableEq, Repr

def Stage.description : Stage → String
  | building => "failed to build the list"
  | banner => "failed to write the banner"
  | walking => "failed to walk the list"
  | printing => "failed to write a list value"
  | flushing => "failed to flush stdout"

inductive Cause where
  | list (error : ListError)
  | io (error : IoError)
  deriving DecidableEq, Repr

def Cause.message : Cause → String
  | list error => error.message
  | io error => error.message

structure Failure where
  stage : Stage
  cause : Cause
  deriving DecidableEq, Repr

namespace Demo

/-- Written before the values. -/
def banner : String := "Created linked list"

/-- The values of the chain, from head to tail. -/
def values : List Int32 := [1, 2, 3, 4, 5]

/-- All that is written if nothing fails. -/
def text : List Char := banner.toList ++ values.flatMap Print.text

variable {α σ : Type}

/-- Prints every value of the chain up to the first failure, on a walk that goes on to the end. -/
def printChain (writer : Writer σ) (chain : Chain) (out : Outlet σ) :
    Traced α (Except ListError (Except IoError Unit × Outlet σ)) :=
  chain.tryTraverse (some fun state value => return Print.unlessFailed writer state value)
    (.ok (), out)

/-- Writes the banner and the values of a chain that has been built. -/
def present (writer : Writer σ) (chain : Chain) (out : Outlet σ) :
    Traced α (Except Failure Unit × Outlet σ) := do
  match out.writeAll writer banner.toList with
  | (.error error, out) => return (.error ⟨.banner, .io error⟩, out)
  | (.ok (), out) =>
    match ← printChain writer chain out with
    | .error error => return (.error ⟨.walking, .list error⟩, out)
    | .ok (result, out) => return (result.mapError fun error => ⟨.printing, .io error⟩, out)

def run [Allocator α] (writer : Writer σ) (out : Outlet σ) :
    Traced α (Except Failure Unit × Outlet σ) := do
  match ← Chain.ofValues values with
  | .error error => return (.error ⟨.building, .list error⟩, out)
  | .ok chain => present writer chain out

end Demo

end PrependList
