import PrependList.Command.Refusal
import PrependList.Demo.Report

/-!
# The command

From a command line and a standard output to an exit code and two texts. The demonstration writes to
a buffer that takes everything, and only the flush at the end can meet a broken standard output: by
then all events have been recorded, and what is missing is the last one. Help and version are
printed without looking at what became of them.

The exit code is 2 for a command line that cannot be read, 1 for a failure, and 0 otherwise.
-/

namespace PrependList.Command

/-- Where standard output goes. -/
inductive Stdout where
  /-- To a reader. -/
  | captured
  /-- To something that fails every write with this fault. An interruption is admitted like the
  others, although a flush tries again after one and never ends with it. -/
  | failing (fault : SystemFault)
  deriving DecidableEq, Repr

structure Outcome where
  code : Nat
  /-- The text that reaches the reader of standard output. -/
  stdout : String
  /-- The lines of the log, without their ends. -/
  log : List String
  /-- What is said after the log: the failure, if there was one. -/
  complaint : String
  deriving DecidableEq, Repr

/-- The text on standard error. -/
def Outcome.stderr (outcome : Outcome) : String :=
  String.join (outcome.log.map (· ++ "\n")) ++ outcome.complaint

/-- The part of a text that reaches the reader. -/
def Stdout.deliver (stdout : Stdout) (text : String) : String :=
  match stdout with
  | captured => text
  | failing _ => ""

def helpText : String :=
  "Builds the list 1..=5 by prepending and prints it after a banner\n\n"
    ++ "Usage: clist [OPTIONS]\n\n"
    ++ "Options:\n"
    ++ "  -v, --verbose...  Log more to stderr; repeat for more detail\n"
    ++ "  -h, --help        Print help\n"
    ++ "  -V, --version     Print version\n"

def versionText : String := "clist 0.1.0\n"

def Request.text : Request → String
  | help => helpText
  | version => versionText

/-- Standard output before the flush: everything is taken. -/
def buffer : Writer Unit where
  reply _ text := (.took text.length, ())
  patience _ := 0

/-- What the flush comes to. -/
def Stdout.flush : Stdout → Except Failure Unit
  | captured => .ok ()
  | failing fault => .error ⟨.flushing, .io (.system fault)⟩

/-- Runs the demonstration into the buffer and flushes it. The value is the result, and what went into
the buffer. -/
def demonstrate {α : Type} [Allocator α] (ignored : List Argument) (stdout : Stdout) :
    Traced α (Except Failure Unit × List Char) := do
  if ignored ≠ [] then Traced.emit (.ignoring ignored)
  let (result, out) ← Demo.run buffer (Outlet.fresh ())
  match result with
  | .error failure => return (.error failure, out.written)
  | .ok () =>
    match stdout.flush with
    | .error failure => return (.error failure, out.written)
    | .ok () =>
      Traced.emit .done
      return (.ok (), out.written)

def complaintOf : Except Failure Unit → String
  | .ok () => ""
  | .error failure => "Error: " ++ failure.report ++ "\n"

def codeOf : Except Failure Unit → Nat
  | .ok () => 0
  | .error _ => 1

def runDemo (verbosity : Nat) (ignored : List Argument) (stdout : Stdout) : Outcome :=
  let trace := (demonstrate ignored stdout).run Budget.unlimited
  let (result, written) := trace.value
  { code := codeOf result
    stdout := stdout.deliver (String.ofList written)
    log := (Level.ofVerbosity verbosity).log trace.events
    complaint := complaintOf result }

/-- Runs the command. -/
def run (arguments : List Argument) (stdout : Stdout) : Outcome :=
  match Invocation.ofArguments arguments with
  | .request request => ⟨0, stdout.deliver request.text, [], ""⟩
  | .refused refusal repeated => ⟨2, "", [], refusal.message repeated⟩
  | .demo verbosity ignored => runDemo verbosity ignored stdout

end PrependList.Command
