import PrependList.Demo.Basic

/-!
# Reporting a failure

A failure is a stage and a cause, and is reported in four ways: the stage alone, both on one line,
both as a chain of messages, and as a text of several lines with the cause below a heading. The
cause's message is any text. In the last form every line of it is indented, the empty ones too, so
it can be taken out again whatever it says.
-/

namespace PrependList

/-- The text with four blanks before each of its lines. -/
def indented (text : List Char) : List Char :=
  let margin := [' ', ' ', ' ', ' ']
  margin ++ text.flatMap fun c => if c = '\n' then '\n' :: margin else [c]

namespace Failure

def message (failure : Failure) : String := failure.stage.description

/-- The stage and the cause on one line. -/
def summary (failure : Failure) : String := failure.message ++ ": " ++ failure.cause.message

/-- The messages from the outermost to the innermost. -/
def chain (failure : Failure) : List String := [failure.message, failure.cause.message]

/-- The stage, and the cause indented under a heading. -/
def report (failure : Failure) : String :=
  failure.message ++ "\n\nCaused by:\n" ++ String.ofList (indented failure.cause.message.toList)

end Failure

end PrependList
