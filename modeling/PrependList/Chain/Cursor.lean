import PrependList.Chain.Basic

/-!
# Cursors

A cursor stands between the values of a chain and moves towards the tail. It has the values ahead,
and beside them a count of how many are left: the count starts at the cached size and goes down with
every value, so that the length is known without a look ahead. Where the chain's handle agrees with
its nodes, count and values agree at every step (`Exact`).

Everything but `next` is a number of `next` steps taken at once, and is defined that way: `advance`
takes some, and the operations that consume the rest take all.
-/

namespace PrependList

structure Cursor where
  ahead : List Int32
  /-- The number of values left, counted down. -/
  remaining : Nat
  deriving DecidableEq, Repr

def Chain.cursor (chain : Chain) : Cursor := ⟨chain.nodes, chain.size⟩

namespace Cursor

/-- The next value, and the cursor behind it. At the end nothing changes any more. -/
def next : Cursor → Option Int32 × Cursor
  | ⟨[], remaining⟩ => (none, ⟨[], remaining⟩)
  | ⟨value :: ahead, remaining⟩ => (some value, ⟨ahead, remaining - 1⟩)

def length (cursor : Cursor) : Nat := cursor.remaining

/-- The bounds on the number of values left. -/
def sizeHint (cursor : Cursor) : Nat × Option Nat := (cursor.remaining, some cursor.remaining)

/-- The cursor after `count` steps, or at the end if there are fewer. -/
def advance (cursor : Cursor) (count : Nat) : Cursor :=
  ⟨cursor.ahead.drop count, cursor.remaining - min count cursor.ahead.length⟩

/-- The cursor at the end. -/
def exhaust (cursor : Cursor) : Cursor := cursor.advance cursor.ahead.length

/-- The count is the number of values ahead. -/
def Exact (cursor : Cursor) : Prop := cursor.remaining = cursor.ahead.length

theorem Exact.next {cursor : Cursor} (h : cursor.Exact) : cursor.next.2.Exact := by
  obtain ⟨ahead, remaining⟩ := cursor
  cases ahead with
  | nil => exact h
  | cons value ahead =>
    simp only [Exact, Cursor.next, List.length_cons] at h ⊢
    omega

theorem Exact.advance {cursor : Cursor} (h : cursor.Exact) (count : Nat) :
    (cursor.advance count).Exact := by
  simp only [Exact, Cursor.advance, List.length_drop] at h ⊢
  omega

theorem advance_zero (cursor : Cursor) : cursor.advance 0 = cursor := by
  simp [advance]

theorem advance_succ (cursor : Cursor) (count : Nat) :
    cursor.advance (count + 1) = cursor.next.2.advance count := by
  obtain ⟨ahead, remaining⟩ := cursor
  cases ahead with
  | nil => simp [advance, next]
  | cons value ahead =>
    simp only [advance, next, List.drop_succ_cons, List.length_cons, Cursor.mk.injEq, true_and]
    omega

/-- Skips `count` values and gives the next one. -/
def nth (cursor : Cursor) (count : Nat) : Option Int32 × Cursor := (cursor.advance count).next

/-- At most `count` values. -/
def take (cursor : Cursor) (count : Nat) : List Int32 × Cursor :=
  (cursor.ahead.take count, cursor.advance count)

/-- How many values stand before the first `value`. That one is consumed with them; where there is
none, everything is. -/
def position (cursor : Cursor) (value : Int32) : Option Nat × Cursor :=
  match cursor.ahead.idxOf? value with
  | some index => (some index, cursor.advance (index + 1))
  | none => (none, cursor.exhaust)

/-- All values left. -/
def collect (cursor : Cursor) : List Int32 × Cursor := (cursor.ahead, cursor.exhaust)

/-- The number of values left, found by going through them. -/
def count (cursor : Cursor) : Nat × Cursor := (cursor.ahead.length, cursor.exhaust)

def last (cursor : Cursor) : Option Int32 × Cursor := (cursor.ahead.getLast?, cursor.exhaust)

def largest (cursor : Cursor) : Option Int32 × Cursor := (cursor.ahead.max?, cursor.exhaust)

def smallest (cursor : Cursor) : Option Int32 × Cursor := (cursor.ahead.min?, cursor.exhaust)

/-- The sum of the values left, as integers. -/
def sum (cursor : Cursor) : Int × Cursor :=
  (cursor.ahead.foldl (fun sofar value => sofar + value.toInt) 0, cursor.exhaust)

end Cursor

namespace Chain

theorem Agrees.cursor {chain : Chain} (h : chain.Agrees) : chain.cursor.Exact := h

/-- The values of the chain, as a cursor over it yields them. -/
def values (chain : Chain) : List Int32 := chain.cursor.collect.1

/-- The values in order of their first difference; a chain that ends there comes first. -/
def order (chain other : Chain) : Ordering := compare chain.values other.values

end Chain

end PrependList
