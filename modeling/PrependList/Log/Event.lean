import PrependList.Log.Level
import PrependList.Text.Numeral
import PrependList.Text.Quoted

/-!
# Events

What a chain, a walk or the command has to say while it works. An event is data: its level and its
one line of text are functions of it, so a statement about what happened need not speak of text.

Keeping a log means choosing from the events that happened those that a threshold admits. The choice
is made for each event on its own, after the fact.
-/

namespace PrependList

inductive Event where
  /-- A chain is about to be built from this many values. -/
  | building (count : Nat)
  /-- A value went in front, and the chain now has this size. -/
  | prepended (value : Int32) (size : Nat)
  /-- A walk is about to hand this value to its visitor. -/
  | visiting (value : Int32)
  /-- A checked walk is about to start on a chain of this length. -/
  | traversing (length : Nat)
  /-- The command was given arguments that it does not look at. -/
  | ignoring (arguments : List (List UInt8))
  /-- The command has delivered its output. -/
  | done
  deriving DecidableEq, Repr

namespace Event

def level : Event → Level
  | building _ => .debug
  | prepended _ _ => .trace
  | visiting _ => .trace
  | traversing _ => .debug
  | ignoring _ => .debug
  | done => .info

def message : Event → String
  | building count => "building list count=" ++ Numeral.ofNat count
  | prepended value size =>
    "prepend value=" ++ Numeral.ofInt32 value ++ " size=" ++ Numeral.ofNat size
  | visiting value => "visit value=" ++ Numeral.ofInt32 value
  | traversing length => "traversing list len=" ++ Numeral.ofNat length
  | ignoring arguments =>
    "ignoring extra arguments ignored=" ++ String.ofList (Quoted.bytesList arguments)
  | done => "done"

/-- The event as one line, without its end. -/
def line (event : Event) : String := event.level.label ++ " clist: " ++ event.message

end Event

namespace Level

/-- The events that are kept under the threshold, in order. -/
def keep (threshold : Level) (events : List Event) : List Event :=
  events.filter fun event => threshold.admits event.level

/-- The log of the events: a line for each one that is kept. -/
def log (threshold : Level) (events : List Event) : List String :=
  (threshold.keep events).map Event.line

@[simp] theorem keep_append (threshold : Level) (first second : List Event) :
    threshold.keep (first ++ second) = threshold.keep first ++ threshold.keep second :=
  List.filter_append ..

end Level

end PrependList
