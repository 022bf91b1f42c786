import PrependList.Chain.Reverse
import PrependList.Session.Observer
import PrependList.Session.Query

/-!
# Calls on slots

A number of slots, each vacant or holding the handle of a chain, and the calls that can be made on
them. A call names its slots, gives an answer, and leaves the slots as they then are. One that needs
a chain and finds a slot vacant answers so and changes nothing.

Handles move: filling a slot drops what it held, and a refused prepend of which only the cause is
kept leaves its slot vacant.
-/

namespace PrependList

/-- Places for `n` chains. -/
abbrev Slots (n : Nat) := Vector (Option Chain) n

/-- What to make of a refused prepend. -/
inductive Recovery where
  /-- Keep the chain. -/
  | chain
  /-- Keep the chain and look at the cause. -/
  | parts
  /-- Keep only the cause; the chain is lost. -/
  | cause
  deriving DecidableEq, Repr

/-- The chain that is left of a refused prepend. -/
def Recovery.keep (recovery : Recovery) (refusal : PrependError) : Option Chain :=
  match recovery with
  | chain => some refusal.chain
  | parts => some refusal.parts.1
  | cause => none

inductive Call (n : Nat) where
  /-- Put an empty chain into the slot. -/
  | clear (slot : Fin n)
  | build (slot : Fin n) (values : List Int32)
  | prepend (slot : Fin n) (value : Int32) (recovery : Recovery)
  /-- Prepend values in equal steps, wrapping at 32 bits, up to the first refusal. -/
  | prependRange (slot : Fin n) (start step : Int32) (count : Nat)
  | head (slot : Fin n)
  | length (slot : Fin n)
  | isEmpty (slot : Fin n)
  | text (slot : Fin n) (format : Format)
  | traverse (slot : Fin n) (observer : Observer)
  | tryTraverse (slot : Fin n) (observer? : Option Observer)
  /-- Put the reversal of one slot's chain into another. -/
  | reverse (slot target : Fin n)
  /-- Build another slot's chain from the values of this one's. -/
  | copy (slot target : Fin n)
  /-- Walk the other chain once for every value of this one. -/
  | cross (slot other : Fin n)
  | compare (slot other : Fin n)
  | swap (slot target : Fin n)
  | query (slot : Fin n) (queries : List (Query.Hand × Query))
  /-- Make the slot vacant. -/
  | drop (slot : Fin n)
  deriving DecidableEq, Repr

/-- What a comparison of two chains finds. -/
structure Comparison where
  equal : Bool
  order : Ordering
  /-- The number of values that have a partner in the other chain. -/
  paired : Nat
  /-- The number of values of both together. -/
  joined : Nat
  deriving DecidableEq, Repr

inductive Answer where
  | done
  /-- A chain was made as it was asked for. -/
  | made
  /-- A slot is vacant where a chain is needed. -/
  | vacant
  | failed (error : ListError)
  | refused (refusal : PrependError) (recovery : Recovery)
  /-- So many values went in, and then a refusal may have stopped the rest. -/
  | range (granted : Nat) (refusal : Option PrependError)
  | head (value : Option Int32)
  | length (length : Nat)
  | isEmpty (isEmpty : Bool)
  | text (text : String)
  | observed (observation : Observation)
  /-- The walk was rejected before it began. -/
  | rejected (error : ListError)
  | reversed (refusals : Nat)
  | pairs (pairs : Array (Int32 × Int32))
  | compared (comparison : Comparison)
  | replies (replies : List Query.Reply)

def Chain.compareTo (chain other : Chain) : Comparison where
  equal := chain.values = other.values
  order := chain.order other
  paired := min chain.length other.length
  joined := chain.length + other.length

namespace Call

variable {α : Type} {n : Nat}

/-- The values of `prependRange`. -/
def range (start step : Int32) (count : Nat) : List Int32 :=
  (List.range count).map fun i => start + step * Int32.ofNat i

/-- The visitor that only observes. -/
def observe : Chain.Visitor α Observation := fun seen value => return seen.see value

/-- The visitor that walks the other chain for each value. -/
def crossWith (other : Chain) : Chain.Visitor α (Array (Int32 × Int32)) :=
  fun pairs x => other.traverse (fun pairs y => return pairs.push (x, y)) pairs

/-- Goes on with the chain in a slot, if there is one. -/
def withChain (slots : Slots n) (slot : Fin n) (act : Chain → Traced α (Answer × Slots n)) :
    Traced α (Answer × Slots n) :=
  match slots[slot] with
  | some chain => act chain
  | none => return (.vacant, slots)

/-- Makes the call: its answer, and the slots after it. -/
def perform [Allocator α] (slots : Slots n) : Call n → Traced α (Answer × Slots n)
  | clear slot => return (.done, slots.set slot (some .empty))
  | build slot values => do
    match ← Chain.ofValues values with
    | .ok chain => return (.made, slots.set slot (some chain))
    | .error error => return (.failed error, slots)
  | prepend slot value recovery => withChain slots slot fun chain => do
    match ← chain.prepend value with
    | .ok chain => return (.made, slots.set slot (some chain))
    | .error refusal => return (.refused refusal recovery, slots.set slot (recovery.keep refusal))
  | prependRange slot start step count => withChain slots slot fun chain => do
    match ← chain.prependAll (range start step count) with
    | .ok longer => return (.range (longer.length - chain.length) none, slots.set slot (some longer))
    | .error refusal =>
      return (.range (refusal.chain.length - chain.length) (some refusal),
        slots.set slot (some refusal.chain))
  | head slot => withChain slots slot fun chain => return (.head chain.head, slots)
  | length slot => withChain slots slot fun chain => return (.length chain.length, slots)
  | isEmpty slot => withChain slots slot fun chain => return (.isEmpty chain.isEmpty, slots)
  | text slot format => withChain slots slot fun chain =>
    return (.text (String.ofList (chain.text format)), slots)
  | traverse slot observer => withChain slots slot fun chain => do
    return (.observed (← chain.traverse observe observer.start), slots)
  | tryTraverse slot observer? => withChain slots slot fun chain => do
    let visit? := observer?.map fun _ => observe
    match ← chain.tryTraverse visit? (observer?.getD .count).start with
    | .ok observation => return (.observed observation, slots)
    | .error error => return (.rejected error, slots)
  | reverse slot target => withChain slots slot fun chain => do
    let reversal ← chain.reverse
    return (.reversed reversal.refusals, slots.set target (some reversal.chain))
  | copy slot target => withChain slots slot fun chain => do
    match ← Chain.ofValues chain.values with
    | .ok made => return (.made, slots.set target (some made))
    | .error error => return (.failed error, slots)
  | cross slot other => withChain slots slot fun chain => withChain slots other fun other => do
    return (.pairs (← chain.traverse (crossWith other) #[]), slots)
  | compare slot other => withChain slots slot fun chain => withChain slots other fun other =>
    return (.compared (chain.compareTo other), slots)
  | swap slot target => return (.done, (slots.set slot slots[target]).set target slots[slot])
  | query slot queries => withChain slots slot fun chain =>
    return (.replies (Query.askBoth chain.cursor chain.cursor queries), slots)
  | drop slot => withChain slots slot fun _ => return (.done, slots.set slot none)

end Call

end PrependList
