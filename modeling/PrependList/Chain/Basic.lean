/-!
# Chains

A chain is a list of 32-bit integers that grows at the front. Its handle has the nodes, head first,
and beside them the number of nodes, so that the length is known without a walk.

The two parts are separate: `length` reads the cached number, `head` and `isEmpty` read the nodes.
That they agree is not part of the type. `Agrees` says it, and it is what every operation that makes
a handle has to keep.
-/

namespace PrependList

structure Chain where
  /-- The values of the nodes, from head to tail. -/
  nodes : List Int32
  /-- The number of nodes, kept beside them. -/
  size : Nat
  deriving DecidableEq, Repr

namespace Chain

def empty : Chain := ⟨[], 0⟩

/-- The handle after `value` went in front. -/
def push (chain : Chain) (value : Int32) : Chain := ⟨value :: chain.nodes, chain.size + 1⟩

def head (chain : Chain) : Option Int32 := chain.nodes.head?

def length (chain : Chain) : Nat := chain.size

def isEmpty (chain : Chain) : Bool := chain.nodes.isEmpty

/-- The cached number is the number of nodes. -/
def Agrees (chain : Chain) : Prop := chain.size = chain.nodes.length

theorem Agrees.empty : Chain.empty.Agrees := rfl

theorem Agrees.push {chain : Chain} (h : chain.Agrees) (value : Int32) :
    (chain.push value).Agrees := congrArg (· + 1) h

end Chain

end PrependList
