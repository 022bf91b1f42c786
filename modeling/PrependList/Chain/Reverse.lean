import PrependList.Chain.Prepend
import PrependList.Chain.Walk

/-!
# Reversing a chain

A walk over one chain whose visitor prepends every value to another. The chain that is walked stays
as it is. A value that is refused is left out and counted, and the walk goes on.
-/

namespace PrependList.Chain

variable {α : Type} [Allocator α]

/-- What a reversal has come to: the values left out, and the chain so far. -/
structure Reversal where
  refusals : Nat
  chain : Chain
  deriving DecidableEq, Repr

/-- One value goes in front of the chain so far, if memory allows. -/
def Reversal.add (sofar : Reversal) (value : Int32) : Traced α Reversal := do
  match ← sofar.chain.prependGranted value with
  | (true, chain) => return { sofar with chain := chain }
  | (false, chain) => return ⟨sofar.refusals + 1, chain⟩

def reverse (chain : Chain) : Traced α Reversal := chain.traverse Reversal.add ⟨0, empty⟩

end PrependList.Chain
