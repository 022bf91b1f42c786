import PrependList.Chain.Cursor

/-!
# Queries

The questions that a cursor answers, as data, so that a sequence of them can be given beforehand.
Two cursors can be asked by turns; neither notices the other.
-/

namespace PrependList

inductive Query where
  | next
  | length
  | sizeHint
  | nth (skipped : Nat)
  | take (most : Nat)
  | position (wanted : Int32)
  | collect
  | count
  | last
  | largest
  | smallest
  | sum
  deriving DecidableEq, Repr

namespace Query

inductive Reply where
  | value (value : Option Int32)
  | values (values : List Int32)
  | number (number : Nat)
  | bounds (bounds : Nat × Option Nat)
  | index (index : Option Nat)
  | total (total : Int)
  deriving DecidableEq, Repr

/-- The reply to a query, and the cursor afterwards. -/
def ask (cursor : Cursor) : Query → Reply × Cursor
  | next => cursor.next.map .value id
  | length => (.number cursor.length, cursor)
  | sizeHint => (.bounds cursor.sizeHint, cursor)
  | nth skipped => (cursor.nth skipped).map .value id
  | take most => (cursor.take most).map .values id
  | position wanted => (cursor.position wanted).map .index id
  | collect => cursor.collect.map .values id
  | count => cursor.count.map .number id
  | last => cursor.last.map .value id
  | largest => cursor.largest.map .value id
  | smallest => cursor.smallest.map .value id
  | sum => cursor.sum.map .total id

/-- Which of two cursors is asked. -/
inductive Hand where
  | first
  | second
  deriving DecidableEq, Repr

/-- The replies of two cursors to queries that are put to one or the other. -/
def askBoth (first second : Cursor) : List (Hand × Query) → List Reply
  | [] => []
  | (.first, query) :: queries =>
    let (reply, first) := ask first query
    reply :: askBoth first second queries
  | (.second, query) :: queries =>
    let (reply, second) := ask second query
    reply :: askBoth first second queries

end Query

end PrependList
