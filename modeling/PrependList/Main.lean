import PrependList.Command.Program

/-!
# The executable

Hands the arguments to the command and prints what it comes to. Whether standard output works is
found out by using it: if it fails, the command is run for a standard output with that fault.
-/

namespace PrependList.Command

/-- The fault that a failed write to standard output stands for. Interruptions are among them for
completeness: a flush tries again after one. -/
def stdoutFault : IO.Error → SystemFault
  | .resourceVanished .. => .brokenPipe
  | .resourceExhausted .. => .noSpace
  | .permissionDenied .. => .permissionDenied
  | .interrupted .. => .interruptedCall
  | .resourceBusy .. => .unavailable
  | _ => .inputOutput

end PrependList.Command

open PrependList

def main (args : List String) : IO UInt32 := do
  let arguments := args.map fun arg => arg.toUTF8.toList
  let outcome := Command.run arguments .captured
  let outcome ← try
      let stdout ← IO.getStdout
      stdout.putStr outcome.stdout
      stdout.flush
      pure outcome
    catch error => pure (Command.run arguments (.failing (Command.stdoutFault error)))
  (← IO.getStderr).putStr outcome.stderr
  return outcome.code.toUInt32
