import PrependList.Chain.Render
import PrependList.Chain.Reverse
import PrependList.Proofs.Chain.Growth

/-!
# What a reversal comes to

A reversal walks over one chain and prepends each value to another, so two things happen by turns:
a value is announced, and then it goes in front of the other chain or is refused. Which of the two is
up to memory, so the outcome is a function of the values and the answers they meet (`answered`). The
values that were granted stand in the new chain in reverse, because each one went in front.

`run_walk_add` is the closed form, for a reversal that has already come some way, and `reverses` says
what it amounts to from the start. Without refusals a second reversal takes the first one back, and so
building from the values of a chain does nothing new (`Agrees.reverse_reverse`,
`Agrees.ofValues_values`); both need a chain whose size is right.
-/

namespace PrependList

/-- The value that the event announces. -/
def Event.visited? : Event → Option Int32
  | .visiting value => some value
  | _ => none

namespace Chain

open Allocator

/-- The granted values, in the order in which they were asked for. -/
def granted (offers : List (Int32 × Bool)) : List Int32 := (offers.filter Prod.snd).map Prod.fst

/-- How many values were refused. -/
def refused (offers : List (Int32 × Bool)) : Nat := offers.countP fun offer => !offer.2

/-- The events of a reversal that has come to this size. Each value is announced, and one that is
granted goes in front before the next is announced, with a size that is one more than before. -/
def alternation : Nat → List (Int32 × Bool) → List Event
  | _, [] => []
  | size, (value, true) :: offers =>
    .visiting value :: .prepended value (size + 1) :: alternation (size + 1) offers
  | size, (value, false) :: offers => .visiting value :: alternation size offers

theorem granted_map (outcome : Bool) (values : List Int32) :
    granted (values.map fun value => (value, outcome)) = if outcome then values else [] := by
  cases outcome <;> simp [granted, List.filter_map, Function.comp_def]

theorem refused_map (outcome : Bool) (values : List Int32) :
    refused (values.map fun value => (value, outcome))
      = if outcome then 0 else values.length := by
  cases outcome <;> simp [refused, List.countP_map, Function.comp_def]

/-- Every value is announced, granted or not. -/
theorem visited_alternation (offers : List (Int32 × Bool)) :
    ∀ size : Nat, (alternation size offers).filterMap Event.visited? = offers.map Prod.fst := by
  induction offers with
  | nil => intro size; rfl
  | cons offer offers ih =>
    intro size
    obtain ⟨value, outcome⟩ := offer
    cases outcome with
    | true => exact congrArg (value :: ·) (ih (size + 1))
    | false => exact congrArg (value :: ·) (ih size)

variable {α : Type} [Allocator α]

/-- The values with the answers to one request for each. -/
def answered (memory : α) (values : List Int32) : List (Int32 × Bool) :=
  values.mapIdx fun i value => (value, answer memory i)

theorem answered_cons (memory : α) (value : Int32) (values : List Int32) :
    answered memory (value :: values)
      = (value, (request memory).1) :: answered (request memory).2 values := by
  rw [answered, List.mapIdx_cons]
  rfl

theorem values_answered (values : List Int32) :
    ∀ memory : α, (answered memory values).map Prod.fst = values := by
  induction values with
  | nil => intro memory; rfl
  | cons value values ih =>
    intro memory
    rw [answered_cons, List.map_cons, ih]

theorem answered_of_forall {outcome : Bool} (values : List Int32) :
    ∀ {memory : α}, (∀ i < values.length, answer memory i = outcome) →
      answered memory values = values.map fun value => (value, outcome) := by
  induction values with
  | nil => intro memory _; rfl
  | cons value values ih =>
    intro memory h
    have hfirst : (request memory).1 = outcome := h 0 (Nat.zero_lt_succ _)
    have hrest : ∀ i < values.length, answer (request memory).2 i = outcome :=
      fun i hi => h (i + 1) (Nat.succ_lt_succ hi)
    rw [answered_cons, hfirst, ih hrest, List.map_cons]

theorem run_add_of_granted {memory : α} (h : (request memory).1 = true) (sofar : Reversal)
    (value : Int32) :
    (sofar.add value).run memory
      = ⟨⟨sofar.refusals, sofar.chain.push value⟩, (request memory).2,
          [.prepended value (sofar.chain.size + 1)]⟩ := by
  rw [Reversal.add, prependGranted, Traced.run_bind, Traced.run_bind, run_prepend_of_granted h]
  simp [Trace.after]

theorem run_add_of_refused {memory : α} (h : (request memory).1 = false) (sofar : Reversal)
    (value : Int32) :
    (sofar.add value).run memory
      = ⟨⟨sofar.refusals + 1, sofar.chain⟩, (request memory).2, []⟩ := by
  rw [Reversal.add, prependGranted, Traced.run_bind, Traced.run_bind, run_prepend_of_refused h]
  simp [Trace.after]

/-- **The reversal in closed form**, from any point on. -/
theorem run_walk_add (values : List Int32) :
    ∀ (sofar : Reversal) (memory : α),
      (walk Reversal.add sofar values).run memory
        = let offers := answered memory values
          ⟨⟨sofar.refusals + refused offers, sofar.chain.pushAll (granted offers)⟩,
            after memory values.length, alternation sofar.chain.size offers⟩ := by
  induction values with
  | nil => intro sofar memory; rfl
  | cons value values ih =>
    intro sofar memory
    rw [run_walk_cons, answered_cons]
    cases hfirst : (request memory).1 with
    | true =>
      -- the value goes in front, and the rest goes on from the longer chain
      rw [run_add_of_granted hfirst, ih]
      rfl
    | false =>
      -- the rest goes on from the chain there was, with one refusal more
      have hcount : ∀ offers, refused ((value, false) :: offers) = refused offers + 1 :=
        fun offers => List.countP_cons_of_pos rfl
      rw [run_add_of_refused hfirst, ih]
      dsimp only
      rw [hcount, Nat.add_assoc, Nat.add_comm 1]
      rfl

theorem run_reverse (chain : Chain) (memory : α) :
    chain.reverse.run memory
      = let offers := answered memory chain.nodes
        ⟨⟨refused offers, empty.pushAll (granted offers)⟩, after memory chain.nodes.length,
          alternation 0 offers⟩ := by
  rw [reverse, traverse, run_walk_add]
  dsimp only
  rw [Nat.zero_add]
  rfl

/-- What a reversal of a chain with these values comes to, from this memory on. -/
structure Reverses (values : List Int32) (memory : α) (trace : Trace α Reversal) : Prop where
  /-- What was granted, in reverse. -/
  yields : trace.value.chain.cursor.Yields (granted (answered memory values)).reverse
  length : trace.value.chain.length = (granted (answered memory values)).length
  refusals : trace.value.refusals = refused (answered memory values)
  /-- Each prepend that is granted is reported right behind the announcement of its value. -/
  events : trace.events = alternation 0 (answered memory values)
  /-- All values are announced, in their order. -/
  visits : trace.events.filterMap Event.visited? = values
  /-- Memory is asked once for each value. -/
  memory : trace.memory = after memory values.length

theorem reverses (chain : Chain) (memory : α) :
    Reverses chain.nodes memory (chain.reverse.run memory) := by
  have hnodes := nodes_pushAll (granted (answered memory chain.nodes)) empty
  have hsize := size_pushAll (granted (answered memory chain.nodes)) empty
  rw [run_reverse]
  exact {
    yields := Cursor.yields_iff.mpr ((List.append_nil _).symm.trans hnodes.symm)
    length := hsize.trans (Nat.zero_add _)
    refusals := rfl
    events := rfl
    visits := (visited_alternation _ 0).trans (values_answered chain.nodes memory)
    memory := rfl }

/-! ## Without refusals -/

/-- The one chain reads like the other: the same values, as many, and the same texts. -/
structure ReadsLike (chain other : Chain) : Prop where
  yields : ∀ values, chain.cursor.Yields values ↔ other.cursor.Yields values
  length : chain.length = other.length
  text : ∀ format, chain.text format = other.text format

theorem ReadsLike.refl (chain : Chain) : chain.ReadsLike chain :=
  ⟨fun _ => Iff.rfl, rfl, fun _ => rfl⟩

/-- A chain whose handle is right is what comes of pushing its values, the last one first. -/
theorem Agrees.pushAll_nodes {chain : Chain} (h : chain.Agrees) :
    Chain.empty.pushAll chain.nodes.reverse = chain := by
  have hnodes := nodes_built chain.nodes
  have hsize : (Chain.empty.pushAll chain.nodes.reverse).size = chain.size := by
    rw [size_pushAll, List.length_reverse, show chain.size = chain.nodes.length from h]
    exact Nat.zero_add _
  obtain ⟨nodes, size⟩ := chain
  exact (Chain.mk.injEq ..).mpr ⟨hnodes, hsize⟩

/-- If memory never says no, the values come out in reverse. -/
theorem run_reverse_of_granted {memory : α} {chain : Chain}
    (h : ∀ i < chain.nodes.length, answer memory i = true) :
    (chain.reverse.run memory).value = ⟨0, empty.pushAll chain.nodes⟩ := by
  simp [run_reverse, answered_of_forall chain.nodes h, granted_map, refused_map]

/-- If memory always says no, every value is left out. -/
theorem run_reverse_of_refused {memory : α} {chain : Chain}
    (h : ∀ i < chain.nodes.length, answer memory i = false) :
    (chain.reverse.run memory).value = ⟨chain.nodes.length, empty⟩ := by
  simp [run_reverse, answered_of_forall chain.nodes h, granted_map, refused_map, pushAll]

/-- **Reversing twice gives the chain back.** -/
theorem Agrees.reverse_reverse {chain : Chain} (h : chain.Agrees) {memory later : α}
    (hmemory : ∀ i < chain.nodes.length, answer memory i = true)
    (hlater : ∀ i < chain.nodes.length, answer later i = true) :
    (((chain.reverse.run memory).value.chain).reverse.run later).value = ⟨0, chain⟩ := by
  have hnodes : (Chain.empty.pushAll chain.nodes).nodes = chain.nodes.reverse :=
    (nodes_pushAll chain.nodes Chain.empty).trans (List.append_nil _)
  rw [run_reverse_of_granted hmemory]
  dsimp only
  rw [run_reverse_of_granted (by rwa [hnodes, List.length_reverse]), hnodes, h.pushAll_nodes]

/-- **Building from what an iteration yields gives the chain back.** -/
theorem Agrees.ofValues_values {chain : Chain} (h : chain.Agrees) {memory : α}
    (hmemory : ∀ i < chain.nodes.length, answer memory i = true) :
    ((ofValues chain.values).run memory).value = .ok chain := by
  rw [show chain.values = chain.nodes from rfl, run_ofValues_of_granted hmemory, h.pushAll_nodes]

end Chain

end PrependList
