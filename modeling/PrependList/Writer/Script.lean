import PrependList.Writer.Basic

/-!
# Scripted writers

A writer whose behaviour is written down beforehand: a list of acts, one for each offer, and the act
for all offers after the list has run out. It may also have a limited room. A text longer than the
room that is left is refused whole, and the act of that offer is used up all the same; what is taken
makes the room smaller.
-/

namespace PrependList

inductive Act where
  /-- Take the whole text. -/
  | takeAll
  /-- Take at most so many characters. -/
  | takeUpTo (count : Nat)
  | fail (error : IoError)
  deriving DecidableEq, Repr

/-- The reply of an act to a text of the given length. -/
def Act.reply (act : Act) (length : Nat) : Reply :=
  match act with
  | takeAll => .took length
  | takeUpTo count => .took (min count length)
  | fail error => .failed error

structure Script where
  acts : List Act := []
  /-- The act of every offer after the listed ones. -/
  rest : Act := .takeAll
  /-- The characters that still fit; without a limit when there is no number. -/
  room : Option Nat := none
  deriving DecidableEq, Repr

namespace Script

def outOfRoom : IoError := .custom .writeZero "out of room"

/-- The act of the next offer. -/
def act (script : Script) : Act := script.acts.headD script.rest

/-- The script after one offer of which it took `count` characters. -/
def after (script : Script) (count : Nat) : Script :=
  { script with acts := script.acts.tail, room := script.room.map (· - count) }

/-- Whether a text of this length fits. -/
def fits (script : Script) (length : Nat) : Bool := script.room.all (length ≤ ·)

def reply (script : Script) (text : List Char) : Reply × Script :=
  if script.fits text.length then
    match script.act.reply text.length with
    | .took count => (.took count, script.after count)
    | .failed error => (.failed error, script.after 0)
  else (.failed outOfRoom, script.after 0)

/-- Only listed acts can interrupt for a while and then stop, so their number is the patience. -/
def writer : Writer Script where
  reply := reply
  patience script := script.acts.length

/-- The writer that takes everything. -/
def generous : Script := {}

end Script

end PrependList
