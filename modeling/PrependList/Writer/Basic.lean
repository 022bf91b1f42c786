import PrependList.Writer.Error

/-!
# Writers

A writer is a state machine that is offered a text and takes some of its first characters, or fails.
It may take less than it is offered, take nothing, be interrupted, and go on after a failure as if
nothing had been. All text here is ASCII, so a character is a byte.

An `Outlet` is a writer's state together with the offers that were made to it, each with its text and
the reply; what has been written is read off the offers.

`writeAll` offers a text until nothing of it is left. It repeats an offer that was interrupted, and
ends when nothing is taken and at any other failure. A writer says how many interruptions it is
worth waiting out (`patience`); a text is offered that many times and once for each character, which
is enough for every text on a writer that is interrupted no more often than it says. Past that the
text ends with an interruption, the one failure that no other path reports.
-/

namespace PrependList

/-- What came of one offer. -/
inductive Reply where
  /-- So many characters were taken, or all if there are fewer. -/
  | took (count : Nat)
  | failed (error : IoError)
  deriving DecidableEq, Repr

structure Writer (σ : Type) where
  /-- The reply to a text, and the state afterwards. -/
  reply : σ → List Char → Reply × σ
  /-- The number of interruptions to wait out on one text. -/
  patience : σ → Nat

/-- A text that was offered, and the reply. -/
structure Offer where
  text : List Char
  reply : Reply
  deriving DecidableEq, Repr

/-- What was taken of the text. -/
def Offer.taken (offer : Offer) : List Char :=
  match offer.reply with
  | .took count => offer.text.take count
  | .failed _ => []

structure Outlet (σ : Type) where
  state : σ
  offers : Array Offer
  deriving DecidableEq, Repr

namespace Outlet

variable {σ : Type}

/-- An outlet to which nothing was offered yet. -/
def fresh (state : σ) : Outlet σ := ⟨state, #[]⟩

/-- All that was taken, in order. -/
def written (out : Outlet σ) : List Char := out.offers.toList.flatMap Offer.taken

/-- One offer. -/
def write (writer : Writer σ) (out : Outlet σ) (text : List Char) : Reply × Outlet σ :=
  let (reply, state) := writer.reply out.state text
  (reply, ⟨state, out.offers.push ⟨text, reply⟩⟩)

/-- Offers the text until nothing of it is left, in at most `limit` offers. -/
def writeWithin (writer : Writer σ) :
    Nat → List Char → Outlet σ → Except IoError Unit × Outlet σ
  | _, [], out => (.ok (), out)
  | 0, _ :: _, out => (.error .impatient, out)
  | limit + 1, c :: cs, out =>
    match out.write writer (c :: cs) with
    | (.took 0, out) => (.error .nothingTaken, out)
    | (.took (count + 1), out) => writeWithin writer limit (cs.drop count) out
    | (.failed error, out) =>
      if error.isInterruption then writeWithin writer limit (c :: cs) out else (.error error, out)

def writeAll (writer : Writer σ) (out : Outlet σ) (text : List Char) :
    Except IoError Unit × Outlet σ :=
  writeWithin writer (writer.patience out.state + text.length) text out

/-- Writes the texts one after another, up to the first that fails. -/
def writePieces (writer : Writer σ) (out : Outlet σ) :
    List (List Char) → Except IoError Unit × Outlet σ
  | [] => (.ok (), out)
  | text :: texts =>
    match out.writeAll writer text with
    | (.ok (), out) => out.writePieces writer texts
    | (.error error, out) => (.error error, out)

/-- What comes after a text that was taken; after a failure nothing does. -/
def proceed (next : Outlet σ → Except IoError Unit × Outlet σ) :
    Except IoError Unit × Outlet σ → Except IoError Unit × Outlet σ
  | (.ok (), out) => next out
  | (.error error, out) => (.error error, out)

theorem writePieces_cons (writer : Writer σ) (out : Outlet σ) (text : List Char)
    (texts : List (List Char)) :
    out.writePieces writer (text :: texts)
      = proceed (fun out => out.writePieces writer texts) (out.writeAll writer text) := rfl

theorem written_write (writer : Writer σ) (out : Outlet σ) (text : List Char) :
    (out.write writer text).2.written
      = out.written ++ Offer.taken ⟨text, (out.write writer text).1⟩ := by
  simp [write, written]

end Outlet

end PrependList
