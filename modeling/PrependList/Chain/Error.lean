import PrependList.Chain.Render
import PrependList.Text.Quoted

/-!
# What can go wrong with a chain

A `ListError` is a cause: there was no memory for a node, or an operation was called without the
argument it needs. It has a message for a reader, and a text that shows its parts, in one line or
spread over several.

A `PrependError` is what a refused prepend gives back. It holds the chain as it was before the call,
so a refusal costs nothing: the holder takes the chain out, or the chain and the cause, or keeps
only the cause.
-/

namespace PrependList

/-- The size of one node in memory. -/
def nodeBytes : UInt64 := 16

inductive ListError where
  /-- A node of so many bytes was refused. -/
  | allocationFailure (bytes : UInt64)
  /-- The operation needs a visitor and got none. -/
  | preconditionViolation (operation : String)
  deriving DecidableEq, Repr

namespace ListError

/-- The cause of every refused node. -/
def noNode : ListError := allocationFailure nodeBytes

def message : ListError → String
  | allocationFailure bytes =>
    "failed to allocate a list node of " ++ Numeral.ofNat bytes.toNat ++ " bytes"
  | preconditionViolation operation => operation ++ " called without a visitor"

/-- The constructor's name in the shown text. -/
def name : ListError → String
  | allocationFailure _ => "AllocationFailure"
  | preconditionViolation _ => "PreconditionViolation"

/-- The one field, as a label and a value. -/
def field : ListError → String
  | allocationFailure bytes => "bytes: " ++ Numeral.ofNat bytes.toNat
  | preconditionViolation operation =>
    "operation: " ++ String.ofList (Quoted.text operation.toList)

/-- The parts of the error in one line. -/
def shown (error : ListError) : String := error.name ++ " \x7b " ++ error.field ++ " \x7d"

/-- The parts of the error with the field on a line of its own. -/
def shownMultiline (error : ListError) : String :=
  error.name ++ " \x7b\n    " ++ error.field ++ ",\n\x7d"

end ListError

/-- A refused prepend: the chain as it stood, and the cause. -/
structure PrependError where
  chain : Chain
  cause : ListError
  deriving DecidableEq, Repr

namespace PrependError

/-- The chain together with the cause. -/
def parts (error : PrependError) : Chain × ListError := (error.chain, error.cause)

def message (error : PrependError) : String := "prepend failed: " ++ error.cause.message

/-- The parts of the error in one line, with the whole chain. -/
def shown (error : PrependError) : String :=
  "PrependError \x7b list: " ++ error.chain.compactText ++ ", error: " ++ error.cause.shown ++ " \x7d"

end PrependError

end PrependList
