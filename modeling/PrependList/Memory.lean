/-!
# Memory for nodes

Every node of a chain is asked for before it exists, and the answer may be no. What answers is a
state machine with one question; two are given here.

* A `Budget` grants a number of nodes and refuses all further ones, or never refuses.
* `Answers` refuse and grant by any plan whatever, and count how often they were asked.
-/

namespace PrependList

/-- A source of memory that is asked for one node at a time. -/
class Allocator (α : Type) where
  /-- Whether the node is granted, and the memory afterwards. -/
  request : α → Bool × α

/-- The nodes that will still be granted; without a limit when there is no number. -/
structure Budget where
  left : Option Nat
  deriving DecidableEq, Repr

namespace Budget

def unlimited : Budget := ⟨none⟩

def request : Budget → Bool × Budget
  | ⟨none⟩ => (true, ⟨none⟩)
  | ⟨some 0⟩ => (false, ⟨some 0⟩)
  | ⟨some (left + 1)⟩ => (true, ⟨some left⟩)

instance : Allocator Budget := ⟨request⟩

end Budget

/-- A plan of answers: the request numbered `i`, from zero, is granted when `granted i`. -/
structure Answers where
  granted : Nat → Bool
  asked : Nat

namespace Answers

def request (memory : Answers) : Bool × Answers :=
  (memory.granted memory.asked, { memory with asked := memory.asked + 1 })

instance : Allocator Answers := ⟨request⟩

end Answers

end PrependList
