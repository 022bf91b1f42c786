import PrependList.Proofs.Chain.Growth

/-!
# Refused prepends leave no trace

A holder of a chain may try to prepend value after value, and take the chain out of the error each
time it is refused, alone or together with the cause. `prependEach` is such a run. It is compared
with the run that attempts only what will be granted, on a memory that never refuses: both end with
one and the same handle and report the same events, so nothing that can be asked of a chain later
tells whether there have been refusals.

`run_prependEach` describes the whole run in closed form. It rests on one lemma for a granted and
one for a refused first attempt.
-/

namespace PrependList

/-- How the chain is taken out of a refused prepend. -/
inductive Salvage where
  /-- The chain alone. -/
  | chain
  /-- The chain together with the cause. -/
  | parts
  deriving DecidableEq, Repr

def Salvage.take : Salvage → PrependError → Chain
  | chain, refusal => refusal.chain
  | parts, refusal => refusal.parts.1

/-- A value to prepend, and what to do if it is refused. -/
structure Attempt where
  value : Int32
  salvage : Salvage
  deriving DecidableEq, Repr

theorem Salvage.take_mk (salvage : Salvage) (chain : Chain) (cause : ListError) :
    salvage.take ⟨chain, cause⟩ = chain := by
  cases salvage with
  | chain => rfl
  | parts => rfl

/-- The attempts that will be granted, if each makes one request. -/
def Answers.select (memory : Answers) (attempts : List Attempt) : List Attempt :=
  ((attempts.zipIdx memory.asked).filter fun attempt => memory.granted attempt.2).map Prod.fst

theorem Answers.select_cons (memory : Answers) (attempt : Attempt) (attempts : List Attempt) :
    memory.select (attempt :: attempts)
      = if memory.granted memory.asked then attempt :: memory.request.2.select attempts
        else memory.request.2.select attempts := by
  rw [select, List.zipIdx_cons, List.filter_cons]
  split
  · rw [List.map_cons]
    rfl
  · rfl

namespace Chain

section Each

variable {α : Type} [Allocator α]

/--
Prepends the values one after another. A refused one is left out: the chain is taken out of the
error, and the next value goes in front of that. There is one outcome for each attempt, the refusal
if it met one.
-/
def prependEach (chain : Chain) : List Attempt → Traced α (List (Option PrependError) × Chain)
  | [] => return ([], chain)
  | attempt :: attempts => do
    match ← chain.prepend attempt.value with
    | .ok chain =>
      let (outcomes, chain) ← chain.prependEach attempts
      return (none :: outcomes, chain)
    | .error refusal =>
      let (outcomes, chain) ← (attempt.salvage.take refusal).prependEach attempts
      return (some refusal :: outcomes, chain)

theorem run_prependEach_cons_of_granted {memory : α} (h : (Allocator.request memory).1 = true)
    (chain : Chain) (attempt : Attempt) (attempts : List Attempt) :
    (chain.prependEach (attempt :: attempts)).run memory
      = let rest := ((chain.push attempt.value).prependEach attempts).run
          (Allocator.request memory).2
        ⟨(none :: rest.value.1, rest.value.2), rest.memory,
          .prepended attempt.value (chain.size + 1) :: rest.events⟩ := by
  rw [prependEach, Traced.run_bind, run_prepend_of_granted h]
  dsimp only
  rw [Traced.run_bind]
  simp only [Traced.run_pure, Trace.after, List.append_nil]
  rfl

theorem run_prependEach_cons_of_refused {memory : α} (h : (Allocator.request memory).1 = false)
    (chain : Chain) (attempt : Attempt) (attempts : List Attempt) :
    (chain.prependEach (attempt :: attempts)).run memory
      = let rest := (chain.prependEach attempts).run (Allocator.request memory).2
        ⟨(some ⟨chain, .noNode⟩ :: rest.value.1, rest.value.2), rest.memory, rest.events⟩ := by
  rw [prependEach, Traced.run_bind, run_prepend_of_refused h]
  dsimp only
  rw [Salvage.take_mk, Traced.run_bind]
  simp only [Traced.run_pure, Trace.after, List.append_nil]
  rfl

/-- On a memory that never refuses every attempt is granted. -/
theorem run_prependEach_unlimited (attempts : List Attempt) :
    ∀ chain : Chain, (chain.prependEach attempts).run Budget.unlimited
      = ⟨(attempts.map fun _ => none, chain.pushAll (attempts.map Attempt.value)),
          Budget.unlimited, growth chain.size (attempts.map Attempt.value)⟩ := by
  induction attempts with
  | nil => intro chain; rfl
  | cons attempt attempts ih =>
    intro chain
    have hrest : (Allocator.request Budget.unlimited).2 = Budget.unlimited := rfl
    rw [run_prependEach_cons_of_granted rfl, hrest, ih, List.map_cons, List.map_cons, growth_cons]
    rfl

end Each

/-- **The run in closed form**: what went in front, the events, and the requests that were made. -/
theorem run_prependEach (attempts : List Attempt) :
    ∀ (chain : Chain) (memory : Answers),
      let trace := (chain.prependEach attempts).run memory
      let granted := (memory.select attempts).map Attempt.value
      trace.value.2 = chain.pushAll granted ∧ trace.events = growth chain.size granted
        ∧ trace.memory = { memory with asked := memory.asked + attempts.length } := by
  induction attempts with
  | nil => intro chain memory; exact ⟨rfl, rfl, rfl⟩
  | cons attempt attempts ih =>
    intro chain memory
    have hasked : memory.asked + 1 + attempts.length = memory.asked + (attempts.length + 1) := by
      omega
    dsimp only
    rw [Answers.select_cons]
    cases hfirst : memory.granted memory.asked with
    | true =>
      -- the value goes in front in both runs, and the rest starts from the longer chain
      obtain ⟨hchain, hevents, hmemory⟩ := ih (chain.push attempt.value) memory.request.2
      rw [run_prependEach_cons_of_granted hfirst, if_pos rfl, List.map_cons, growth_cons]
      refine ⟨hchain, congrArg (List.cons _) hevents, hmemory.trans ?_⟩
      rw [List.length_cons, ← hasked]
      rfl
    | false =>
      -- the other run never sees this attempt, and the rest starts from the same chain
      obtain ⟨hchain, hevents, hmemory⟩ := ih chain memory.request.2
      rw [run_prependEach_cons_of_refused hfirst, if_neg Bool.false_ne_true]
      refine ⟨hchain, hevents, hmemory.trans ?_⟩
      rw [List.length_cons, ← hasked]
      rfl

/-- A refused attempt gives back the chain that the attempts before it have come to. -/
theorem outcomes_prependEach (attempts : List Attempt) :
    ∀ (chain : Chain) (memory : Answers),
      ((chain.prependEach attempts).run memory).value.1
        = (List.range attempts.length).map fun i =>
            if memory.granted (memory.asked + i) then none
            else some ⟨((chain.prependEach (attempts.take i)).run memory).value.2, .noNode⟩ := by
  induction attempts with
  | nil => intro chain memory; rfl
  | cons attempt attempts ih =>
    intro chain memory
    rw [List.length_cons, List.range_succ_eq_map, List.map_cons, List.map_map]
    have hlater : ∀ i, memory.asked + (i + 1) = memory.asked + 1 + i := by
      intro i
      omega
    cases hfirst : memory.granted memory.asked with
    | true =>
      rw [run_prependEach_cons_of_granted hfirst]
      dsimp only
      rw [ih]
      -- attempt `i + 1` is attempt `i` of a run that starts after the first one
      refine congr (congrArg List.cons ?_) (List.map_congr_left fun i _ => ?_)
      · rw [if_pos rfl]
      · show _ = if memory.granted (memory.asked + (i + 1)) then _ else _
        rw [List.take_succ_cons, run_prependEach_cons_of_granted hfirst, hlater]
        rfl
    | false =>
      rw [run_prependEach_cons_of_refused hfirst]
      dsimp only
      rw [ih]
      refine congr (congrArg List.cons ?_) (List.map_congr_left fun i _ => ?_)
      · rw [if_neg Bool.false_ne_true]
        rfl
      · show _ = if memory.granted (memory.asked + (i + 1)) then _ else _
        rw [List.take_succ_cons, run_prependEach_cons_of_refused hfirst, hlater]
        rfl

/--
**Refused prepends leave no trace.**

Whatever is refused, the run ends with the handle of the run that attempts only the granted values
on a memory that never refuses, and with its events. The handle is all that accessors, iterations
and texts read. Each refusal carries the cause and the chain as it stood before the attempt, which is
the chain that the attempts up to there have come to.
-/
theorem prependEach_leaves_no_trace (chain : Chain) (attempts : List Attempt) (memory : Answers) :
    let trace := (chain.prependEach attempts).run memory
    let granted := memory.select attempts
    let clean := (chain.prependEach granted).run Budget.unlimited
    trace.value.2.cursor.Yields ((granted.map Attempt.value).reverse ++ chain.values)
      ∧ trace.value.2 = clean.value.2
      ∧ trace.events = clean.events
      ∧ clean.value.1 = granted.map (fun _ => none)
      ∧ trace.value.1 = (List.range attempts.length).map (fun i =>
          if memory.granted (memory.asked + i) then none
          else some ⟨((chain.prependEach (attempts.take i)).run memory).value.2,
            .allocationFailure nodeBytes⟩)
      ∧ trace.memory = { memory with asked := memory.asked + attempts.length } := by
  intro trace granted clean
  obtain ⟨hchain, hevents, hmemory⟩ := run_prependEach attempts chain memory
  have hclean := run_prependEach_unlimited granted chain
  refine ⟨?_, ?_, ?_, ?_, outcomes_prependEach attempts chain memory, hmemory⟩
  · refine Cursor.yields_iff.mpr ?_
    show _ = trace.value.2.nodes
    rw [show trace.value.2 = chain.pushAll (granted.map Attempt.value) from hchain, nodes_pushAll]
    rfl
  · rw [show clean = _ from hclean]
    exact hchain
  · rw [show clean = _ from hclean]
    exact hevents
  · rw [show clean = _ from hclean]

end Chain

end PrependList
