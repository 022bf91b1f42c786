import PrependList.Text.Utf8

/-!
# Arguments

The command line is read from left to right, and one argument settles it. Verbose flags are counted
and let the reading go on. A request for help or for the version ends it. So does an argument that
is refused: a flag with a value that it cannot take, or a long name that is not text. `--` and the
first argument that is no flag end it too: they start the demonstration, and everything behind them
is set aside unread, whatever it looks like.

A cluster of letters is a flag argument only if all its letters are known. It is settled as a whole
before any letter counts, and its first letter other than `v` then says what it asks for.

Arguments are byte strings. All flags are ASCII, so their bytes are compared.
-/

namespace PrependList.Command

/-- An argument as the system hands it over: any bytes. -/
abbrev Argument := List UInt8

inductive Request where
  | help
  | version
  deriving DecidableEq, Repr

inductive Flag where
  | verbose
  | request (request : Request)
  deriving DecidableEq, Repr

namespace Flag

def all : List Flag := [verbose, request .help, request .version]

def name : Flag → List Char
  | verbose => ['v', 'e', 'r', 'b', 'o', 's', 'e']
  | request .help => ['h', 'e', 'l', 'p']
  | request .version => ['v', 'e', 'r', 's', 'i', 'o', 'n']

def letter : Flag → Char
  | verbose => 'v'
  | request .help => 'h'
  | request .version => 'V'

def request? : Flag → Option Request
  | verbose => none
  | request asked => some asked

end Flag

/-- The byte of an ASCII character. -/
def byte (c : Char) : UInt8 := UInt8.ofNat c.toNat

def Flag.ofName? (name : List UInt8) : Option Flag := all.find? (·.name.map byte = name)

def Flag.ofLetter? (letter : UInt8) : Option Flag := all.find? (byte ·.letter = letter)

/-- Why an argument cannot be accepted. -/
inductive Refusal where
  /-- A long flag with something after an equals sign. -/
  | unexpectedValue (flag : Flag) (value : List UInt8)
  /-- A long name that is not UTF-8. -/
  | unreadableName (name : List UInt8)
  deriving DecidableEq, Repr

/-- What an argument is, as long as every argument before it was a verbose flag. -/
inductive Reading where
  /-- A long flag, or a cluster with at least one letter. -/
  | flags (flags : List Flag)
  | refused (refusal : Refusal)
  | separator
  | positional
  deriving DecidableEq, Repr

/-- Reads what follows two dashes. -/
def readLong (text : List UInt8) : Reading :=
  let name := text.takeWhile (· != byte '=')
  if text.isEmpty then .separator
  else if !Utf8.isText name then .refused (.unreadableName name)
  else
    match Flag.ofName? name, text.dropWhile (· != byte '=') with
    | some flag, [] => .flags [flag]
    | some flag, _ :: value => .refused (.unexpectedValue flag value)
    | none, _ => .positional

/-- Reads what follows a single dash. -/
def readCluster (letters : List UInt8) : Reading :=
  match letters.mapM Flag.ofLetter? with
  | some (flag :: flags) => .flags (flag :: flags)
  | _ => .positional

def read (argument : Argument) : Reading :=
  match argument with
  | [] => .positional
  | first :: rest =>
    if first = byte '-' then
      match rest with
      | [] => .positional
      | second :: text => if second = byte '-' then readLong text else readCluster rest
    else .positional

/-- What a command line comes to. -/
inductive Invocation where
  | request (request : Request)
  /-- An argument was refused; `repeated` says whether a verbose flag came before. -/
  | refused (refusal : Refusal) (repeated : Bool)
  | demo (verbosity : Nat) (ignored : List Argument)
  deriving DecidableEq, Repr

/-- The most verbose flags that are told apart; counting stops there. -/
def maxVerbosity : Nat := 255

def raise (verbosity count : Nat) : Nat := min maxVerbosity (verbosity + count)

namespace Invocation

/-- Settles the arguments that follow verbose flags of the given number. -/
def settle (verbosity : Nat) : List Argument → Invocation
  | [] => .demo verbosity []
  | argument :: rest =>
    match read argument with
    | .flags flags =>
      match flags.findSome? Flag.request? with
      | some asked => .request asked
      | none => settle (raise verbosity flags.length) rest
    | .refused refusal => .refused refusal (0 < verbosity)
    | .separator => .demo verbosity rest
    | .positional => .demo verbosity (argument :: rest)

def ofArguments (arguments : List Argument) : Invocation := settle 0 arguments

end Invocation

end PrependList.Command
