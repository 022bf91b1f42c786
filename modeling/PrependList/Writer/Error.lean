import PrependList.Text.Numeral

/-!
# What can go wrong while writing

An `IoError` comes from the writer that failed, in one of three forms: a kind with its usual
message, a kind with a message of the writer's own, or a fault that the operating system numbers.
Callers look at the kind and report the message.
-/

namespace PrependList

inductive ErrorKind where
  | writeZero
  | brokenPipe
  | storageFull
  | permissionDenied
  | wouldBlock
  | timedOut
  | inputOutput
  | interrupted
  | other
  deriving DecidableEq, Repr

/-- The message of an error that has only a kind. -/
def ErrorKind.message : ErrorKind → String
  | writeZero => "write zero"
  | brokenPipe => "broken pipe"
  | storageFull => "no storage space"
  | permissionDenied => "permission denied"
  | wouldBlock => "operation would block"
  | timedOut => "timed out"
  | inputOutput => "input/output error"
  | interrupted => "operation interrupted"
  | other => "other error"

/-- The faults of the operating system that a writer can meet. -/
inductive SystemFault where
  | interruptedCall
  | inputOutput
  | unavailable
  | permissionDenied
  | noSpace
  | brokenPipe
  deriving DecidableEq, Repr

namespace SystemFault

def code : SystemFault → Nat
  | interruptedCall => 4
  | inputOutput => 5
  | unavailable => 11
  | permissionDenied => 13
  | noSpace => 28
  | brokenPipe => 32

def kind : SystemFault → ErrorKind
  | interruptedCall => .interrupted
  | inputOutput => .inputOutput
  | unavailable => .wouldBlock
  | permissionDenied => .permissionDenied
  | noSpace => .storageFull
  | brokenPipe => .brokenPipe

def description : SystemFault → String
  | interruptedCall => "Interrupted system call"
  | inputOutput => "Input/output error"
  | unavailable => "Resource temporarily unavailable"
  | permissionDenied => "Permission denied"
  | noSpace => "No space left on device"
  | brokenPipe => "Broken pipe"

def message (fault : SystemFault) : String :=
  fault.description ++ " (os error " ++ Numeral.ofNat fault.code ++ ")"

end SystemFault

inductive IoError where
  | plain (kind : ErrorKind)
  | custom (kind : ErrorKind) (message : String)
  | system (fault : SystemFault)
  deriving DecidableEq, Repr

namespace IoError

def kind : IoError → ErrorKind
  | plain kind => kind
  | custom kind _ => kind
  | system fault => fault.kind

def message : IoError → String
  | plain kind => kind.message
  | custom _ message => message
  | system fault => fault.message

/-- Whether the text is worth offering again. -/
def isInterruption (error : IoError) : Bool := error.kind = .interrupted

/-- The writer took nothing of a text that is not empty. -/
def nothingTaken : IoError := custom .writeZero "failed to write whole buffer"

/-- The writer was interrupted more often than it has patience for. -/
def impatient : IoError := plain .interrupted

end IoError

end PrependList
