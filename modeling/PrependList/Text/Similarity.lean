/-!
# Similarity of texts

How alike two short texts are, as a number between zero and one. Equal characters are paired off
where they stand at similar places, and three shares are averaged: how much of either text is
paired, and how much of the pairing keeps its order.

The characters of the first text choose in order, each the first free partner within reach. Reach is
half the longer length, less one. Two characters count as out of order when the paired parts of the
two texts differ at their place, and two of those make one exchange.
-/

namespace PrependList.Similarity

/-- How far apart the places of two paired characters can be. -/
def reach (xs ys : List Char) : Nat := max xs.length ys.length / 2 - 1

structure Pairing where
  /-- The characters of the first text that have a partner, in order. -/
  paired : List Char
  /-- The second text, with a gap for each partner that has been taken. -/
  free : List (Option Char)
  deriving DecidableEq, Repr

namespace Pairing

/-- The character `x` at place `i` takes the first free partner within reach. -/
def choose (reach : Nat) (pairing : Pairing) (x : Char) (i : Nat) : Pairing :=
  match pairing.free.zipIdx.find? fun (y, j) => y = some x && i ≤ j + reach && j ≤ i + reach with
  | some (_, j) => ⟨pairing.paired ++ [x], pairing.free.set j none⟩
  | none => pairing

def ofTexts (xs ys : List Char) : Pairing :=
  let reach := reach xs ys
  xs.zipIdx.foldl (fun pairing (x, i) => pairing.choose reach x i) ⟨[], ys.map some⟩

/-- The partners in the second text, in order. -/
def partners (pairing : Pairing) (ys : List Char) : List Char :=
  (ys.zip pairing.free).filterMap fun (y, place) => if place.isNone then some y else none

/-- How often two paired characters have changed places. -/
def exchanges (pairing : Pairing) (ys : List Char) : Nat :=
  (pairing.paired.zip (pairing.partners ys)).countP (fun (x, y) => x ≠ y) / 2

end Pairing

/-- The average of the three shares; without a pair there is no likeness. -/
def similarity (xs ys : List Char) : Float :=
  let pairing := Pairing.ofTexts xs ys
  let pairs := pairing.paired.length
  if pairs = 0 then 0
  else
    let share (part whole : Nat) : Float := part.toFloat / whole.toFloat
    (share pairs xs.length + share pairs ys.length + share (pairs - pairing.exchanges ys) pairs) / 3

end PrependList.Similarity
