import PrependList.Proofs.Chain.Iteration
import PrependList.Proofs.Traced
import PrependList.Session.Basic
import PrependList.Session.Client

/-!
# Every handle agrees with its nodes

The size of a chain is kept beside its nodes and is changed by hand, so nothing in the types makes
it right. Here it is shown to be right for every chain that a client can get hold of: in a slot after
any call, also one made by a visitor in the middle of a walk, or inside the error of a refused
prepend.

The work is one lemma for each operation that makes a handle, one for all calls
(`ensures_perform`), and one induction over the client (`ensures_run`). What follows for a single
chain that agrees (`Chain.Agrees.coherent`) is separate from how it came about.
-/

namespace PrependList

open Traced

/-! ## Operations that make a handle -/

namespace Chain

variable {α : Type} [Allocator α]

/-- The chain that an attempt to grow one leaves, inside the error if there is one. -/
def left : Except PrependError Chain → Chain
  | .ok chain => chain
  | .error refusal => refusal.chain

theorem ensures_prepend {chain : Chain} (h : chain.Agrees) (value : Int32) :
    (chain.prepend value : Traced α _).Ensures fun result => (left result).Agrees := by
  intro memory
  cases hgranted : (Allocator.request memory).1 with
  | true => rw [run_prepend_of_granted hgranted]; exact h.push value
  | false => rw [run_prepend_of_refused hgranted]; exact h

theorem ensures_prependAll (values : List Int32) :
    ∀ {chain : Chain}, chain.Agrees →
      (chain.prependAll values : Traced α _).Ensures fun result => (left result).Agrees := by
  induction values with
  | nil => intro chain h; exact Ensures.pure h
  | cons value values ih =>
    intro chain h
    refine Ensures.bind (ensures_prepend h value) (fun result hresult => ?_)
    cases result with
    | ok chain => exact ih hresult
    | error refusal => exact Ensures.pure hresult

theorem ensures_ofValues (values : List Int32) :
    (ofValues values : Traced α _).Ensures fun result =>
      ∀ chain, result = .ok chain → chain.Agrees := by
  refine Ensures.bind (Ensures.any _) (fun _ _ => ?_)
  refine Ensures.bind (ensures_prependAll values.reverse Agrees.empty) (fun result hresult => ?_)
  refine Ensures.pure (fun chain hchain => ?_)
  cases result with
  | ok built => cases hchain; exact hresult
  | error refusal => cases hchain

/-- A reversal prepends to a chain of its own in the middle of a walk. -/
theorem ensures_reverse (chain : Chain) :
    (chain.reverse : Traced α _).Ensures fun reversal => reversal.chain.Agrees := by
  refine ensures_traverse chain (fun sofar value h => ?_) Agrees.empty
  -- a refused prepend gives back the chain it had, which the reversal keeps
  refine Ensures.bind (P := fun outcome => outcome.2.Agrees) ?_ (fun outcome houtcome => ?_)
  · refine Ensures.bind (ensures_prepend h value) (fun result hresult => ?_)
    cases result with
    | ok chain => exact Ensures.pure hresult
    | error refusal => exact Ensures.pure hresult
  · obtain ⟨granted, chain⟩ := outcome
    cases granted with
    | true => exact Ensures.pure houtcome
    | false => exact Ensures.pure houtcome

end Chain

/-! ## Slots and answers -/

/-- Every chain in the slots agrees. -/
def Slots.Agree {n : Nat} (slots : Slots n) : Prop :=
  ∀ chain : Chain, some chain ∈ slots → chain.Agrees

/-- The chains inside an answer: a refusal holds the one that it gives back. -/
def Answer.chains : Answer → List Chain
  | .refused refusal _ => [refusal.chain]
  | .range _ refusal => (refusal.map PrependError.chain).toList
  | _ => []

/-- Every chain in the slots and in the answer agrees. -/
def Sound {n : Nat} (outcome : Answer × Slots n) : Prop :=
  outcome.2.Agree ∧ ∀ chain ∈ outcome.1.chains, chain.Agrees

namespace Slots

variable {n : Nat} {slots : Slots n}

theorem agree_fresh : Agree (Vector.replicate n none) := by
  intro chain h
  cases (Vector.mem_replicate.mp h).2

theorem get_set_of_ne {target slot : Fin n} (hne : target ≠ slot) (content : Option Chain) :
    (slots.set target content target.isLt).get slot = slots.get slot :=
  Vector.getElem_set_ne target.isLt slot.isLt (fun heq => hne (Fin.ext heq))

theorem Agree.set (h : slots.Agree) (slot : Fin n) {content : Option Chain}
    (hcontent : ∀ chain, content = some chain → chain.Agrees) :
    Agree (slots.set slot content slot.isLt) := by
  intro chain hchain
  rcases Vector.mem_or_eq_of_mem_set hchain with hmem | heq
  · exact h chain hmem
  · exact hcontent chain heq.symm

theorem Agree.put (h : slots.Agree) (slot : Fin n) {chain : Chain} (hchain : chain.Agrees) :
    Agree (slots.set slot (some chain) slot.isLt) :=
  h.set slot (fun _ he => Option.some.inj he ▸ hchain)

/-- What stands in a slot. -/
theorem Agree.get (h : slots.Agree) (slot : Fin n) {chain : Chain}
    (hchain : slots.get slot = some chain) : chain.Agrees :=
  h chain (hchain ▸ Vector.getElem_mem slot.isLt)

end Slots

/-- An answer without a chain in it, on slots that agree. -/
theorem sound_of_agree {n : Nat} {slots : Slots n} (h : slots.Agree) {answer : Answer}
    (hanswer : answer.chains = []) : Sound (answer, slots) :=
  ⟨h, fun chain hchain => absurd (show chain ∈ answer.chains from hchain) (by simp [hanswer])⟩

/-! ## Calls -/

namespace Call

variable {α : Type} {n : Nat} {slots : Slots n}

theorem ensures_withChain (h : slots.Agree) (slot : Fin n)
    {act : Chain → Traced α (Answer × Slots n)}
    (hact : ∀ chain, chain.Agrees → (act chain).Ensures Sound) :
    (withChain slots slot act).Ensures Sound := by
  unfold withChain
  split
  · rename_i chain hchain
    exact hact chain (h.get slot hchain)
  · exact Ensures.pure (sound_of_agree h rfl)

/-- A call that only looks at the chain. -/
theorem ensures_answer (h : slots.Agree) {β : Type} (act : Traced α β) {answer : β → Answer}
    (hanswer : ∀ value, (answer value).chains = []) :
    (do return (answer (← act), slots) : Traced α _).Ensures Sound :=
  Ensures.bind (Ensures.any act) (fun value _ => Ensures.pure (sound_of_agree h (hanswer value)))

/-- **Every call keeps the agreement**, in all slots and in its answer. -/
theorem ensures_perform [Allocator α] (call : Call n) (h : slots.Agree) :
    (call.perform slots : Traced α _).Ensures Sound := by
  cases call with
  | clear slot => exact Ensures.pure (sound_of_agree (h.put slot Chain.Agrees.empty) rfl)
  | build slot values =>
    refine Ensures.bind (Chain.ensures_ofValues values) (fun result hresult => ?_)
    cases result with
    | ok chain => exact Ensures.pure (sound_of_agree (h.put slot (hresult chain rfl)) rfl)
    | error error => exact Ensures.pure (sound_of_agree h rfl)
  | prepend slot value recovery =>
    refine ensures_withChain h slot (fun chain hchain => ?_)
    refine Ensures.bind (Chain.ensures_prepend hchain value) (fun result hresult => ?_)
    cases result with
    | ok chain => exact Ensures.pure (sound_of_agree (h.put slot hresult) rfl)
    | error refusal =>
      refine Ensures.pure ⟨h.set slot (fun kept hkept => ?_), fun held hheld => ?_⟩
      · -- two of the three ways keep the chain of the refusal, the third keeps none
        cases recovery with
        | chain => cases hkept; exact hresult
        | parts => cases hkept; exact hresult
        | cause => cases hkept
      · rw [List.mem_singleton.mp hheld]
        exact hresult
  | prependRange slot start step count =>
    refine ensures_withChain h slot (fun chain hchain => ?_)
    refine Ensures.bind (Chain.ensures_prependAll _ hchain) (fun result hresult => ?_)
    cases result with
    | ok chain => exact Ensures.pure (sound_of_agree (h.put slot hresult) rfl)
    | error refusal =>
      refine Ensures.pure ⟨h.put slot hresult, fun held hheld => ?_⟩
      rw [List.mem_singleton.mp hheld]
      exact hresult
  | reverse slot target =>
    refine ensures_withChain h slot (fun chain hchain => ?_)
    exact Ensures.bind (Chain.ensures_reverse chain)
      (fun reversal hreversal => Ensures.pure (sound_of_agree (h.put target hreversal) rfl))
  | copy slot target =>
    refine ensures_withChain h slot (fun chain hchain => ?_)
    refine Ensures.bind (Chain.ensures_ofValues chain.values) (fun result hresult => ?_)
    cases result with
    | ok made => exact Ensures.pure (sound_of_agree (h.put target (hresult made rfl)) rfl)
    | error error => exact Ensures.pure (sound_of_agree h rfl)
  | swap slot target =>
    -- what goes into the second slot is looked up before the first one is changed
    have hfirst := h.set slot (fun _ he => h.get target he)
    have hboth := hfirst.set target (fun _ he => h.get slot he)
    exact Ensures.pure (sound_of_agree hboth rfl)
  | drop slot =>
    refine ensures_withChain h slot (fun chain hchain => ?_)
    exact Ensures.pure (sound_of_agree (h.set slot (fun _ he => by cases he)) rfl)
  | traverse slot observer =>
    exact ensures_withChain h slot (fun chain hchain => ensures_answer h _ (fun _ => rfl))
  | tryTraverse slot observer? =>
    refine ensures_withChain h slot (fun chain hchain => ?_)
    refine Ensures.bind (Ensures.any _) (fun result _ => ?_)
    cases result with
    | ok observation => exact Ensures.pure (sound_of_agree h rfl)
    | error error => exact Ensures.pure (sound_of_agree h rfl)
  | cross slot other =>
    refine ensures_withChain h slot (fun chain hchain => ?_)
    exact ensures_withChain h other (fun other hother => ensures_answer h _ (fun _ => rfl))
  | compare slot other =>
    refine ensures_withChain h slot (fun chain hchain => ?_)
    exact ensures_withChain h other (fun other hother => Ensures.pure (sound_of_agree h rfl))
  | head slot | length slot | isEmpty slot | text slot format | query slot queries =>
    exact ensures_withChain h slot (fun chain hchain => Ensures.pure (sound_of_agree h rfl))

end Call

/-! ## Clients -/

/-- Every chain that is or was in a slot or in an answer agrees. -/
def Standing.Sound {n : Nat} (standing : Standing n) : Prop :=
  standing.slots.Agree ∧ ∀ outcome ∈ standing.history, PrependList.Sound outcome

theorem Standing.sound_fresh {n : Nat} : (fresh : Standing n).Sound :=
  ⟨Slots.agree_fresh, fun _ h => absurd h List.not_mem_nil⟩

theorem Standing.Sound.note {n : Nat} {standing : Standing n} (h : standing.Sound)
    {outcome : Answer × Slots n} (houtcome : PrependList.Sound outcome) :
    (standing.note outcome).Sound := by
  refine ⟨houtcome.1, fun earlier hearlier => ?_⟩
  rcases List.mem_cons.mp hearlier with heq | hmem
  · exact heq ▸ houtcome
  · exact h.2 earlier hmem

namespace Client

variable {α : Type} {n : Nat}

theorem ensures_walkChain {β : Type} {visit : Chain.Visitor α β} {I : β → Prop} (checked : Bool)
    (chain : Chain) (hvisit : ∀ state value, I state → (visit state value).Ensures I) {state : β}
    (h : I state) :
    (walkChain checked chain visit state).Ensures fun result =>
      ∃ last, result = .ok last ∧ I last := by
  cases checked with
  | true => exact Chain.ensures_tryTraverse chain hvisit h
  | false =>
    exact Ensures.bind (Chain.ensures_traverse chain hvisit h)
      (fun last hlast => Ensures.pure ⟨last, rfl, hlast⟩)

/-- **Whatever a client does, the agreement stays.** -/
theorem ensures_run [Allocator α] {β : Type} (client : Client n β) :
    ∀ {standing : Standing n}, standing.Sound →
      (client.run standing : Traced α _).Ensures fun result => result.2.Sound := by
  induction client with
  | done value => intro standing h; exact Ensures.pure h
  | call request next ih =>
    intro standing h
    exact Ensures.bind (request.ensures_perform h.1)
      (fun outcome houtcome => ih outcome.1 (h.note houtcome))
  | walk checked slot visit start next ihvisit ihnext =>
    intro standing h
    rw [run]
    split
    · exact ihnext _ h
    · rename_i chain hchain
      -- the visitor is a client too, so one call of it keeps the agreement by induction
      refine Ensures.bind (ensures_walkChain (I := fun sofar => sofar.2.Sound) checked chain
        (fun sofar value hsofar => ihvisit sofar.1 value hsofar) h) (fun result hresult => ?_)
      obtain ⟨last, hlast, hsound⟩ := hresult
      rw [hlast]
      exact ihnext _ hsound

end Client

/-! ## What agreement comes to -/

/-- All that can be learned about the length and the first value of a chain fits together. -/
structure Chain.Coherent (chain : Chain) : Prop where
  /-- The size that is kept is the number of nodes. -/
  size_eq : chain.size = chain.nodes.length
  length_eq_zero : chain.length = 0 ↔ chain.isEmpty = true
  isEmpty_eq : chain.isEmpty = true ↔ chain.head = none
  /-- An iteration starts with the head. -/
  next_eq : chain.cursor.next.1 = chain.head
  /-- A walk starts with the head: it announces it first, and shows it to the visitor first. -/
  walk_eq : ∀ {α β : Type} (visit : Visitor α β) (state : β) (memory : α),
    ((chain.traverse visit state).run memory).events.head? = chain.head.map Event.visiting
      ∧ ((chain.traverse (recording visit) (state, [])).run memory).value.2.head? = chain.head
  /-- An iteration starts with the count of the values it is going to yield. -/
  remaining_eq : ∃ values, chain.cursor.Yields values ∧ chain.cursor.length = values.length

theorem Chain.Agrees.coherent {chain : Chain} (h : chain.Agrees) : chain.Coherent where
  size_eq := h
  length_eq_zero := by
    rw [length, show chain.size = chain.nodes.length from h, isEmpty, List.isEmpty_iff]
    exact List.length_eq_zero_iff
  isEmpty_eq := by rw [isEmpty, List.isEmpty_iff, head, List.head?_eq_none_iff]
  next_eq := chain.next_cursor
  walk_eq := fun visit state memory =>
    ⟨chain.head?_events_traverse visit state memory, by rw [shown_traverse, head]⟩
  remaining_eq := ⟨chain.nodes, chain.yields_cursor, h⟩

/--
**At every moment of a client's run every handle is coherent.**

The client is any program over any number of slots, and memory answers as it likes. The handles are
those in the slots at the end and after each call, also one that a visitor made during a walk, and
those inside the errors of refused prepends.
-/
theorem coherent_of_live {α : Type} [Allocator α] {n : Nat} {β : Type} (client : Client n β)
    (memory : α) :
    let standing := ((client.run Standing.fresh).run memory).value.2
    (∀ chain : Chain, some chain ∈ standing.slots → chain.Coherent)
      ∧ ∀ outcome ∈ standing.history,
          (∀ chain : Chain, some chain ∈ outcome.2 → chain.Coherent)
            ∧ ∀ chain ∈ outcome.1.chains, chain.Coherent := by
  intro standing
  obtain ⟨hslots, hhistory⟩ : standing.Sound :=
    client.ensures_run Standing.sound_fresh memory
  refine ⟨fun chain h => (hslots chain h).coherent, fun outcome houtcome => ?_⟩
  obtain ⟨hafter, hanswer⟩ := hhistory outcome houtcome
  exact ⟨fun chain h => (hafter chain h).coherent, fun chain h => (hanswer chain h).coherent⟩

/-- Three nodes are granted. Two go into a chain, and of the two that a visitor asks for during a
walk the second is refused. -/
theorem coherent_of_live_transfer :
    let client : Client 2 Unit :=
      .call (.build 0 [7, -1]) fun _ => .call (.clear 1) fun _ => .transfer 0 1 .chain
    let standing := ((client.run Standing.fresh).run (⟨some 3⟩ : Budget)).value.2
    standing.history.length = 4
      ∧ ∃ chain, some chain ∈ standing.slots ∧ chain.head = some 7 ∧ chain.length = 1
        ∧ chain.Coherent := by
  intro client standing
  have hlength : standing.history.length = 4 := by decide +kernel
  have hslots : some ⟨[7], 1⟩ ∈ standing.slots := by decide +kernel
  exact ⟨hlength, ⟨[7], 1⟩, hslots, rfl, rfl,
    (coherent_of_live client (⟨some 3⟩ : Budget)).1 _ hslots⟩

/-- Some run of some client has the chain in a slot, or gets it back inside an answer. -/
def Chain.Reachable (chain : Chain) : Prop :=
  ∃ (α : Type) (_ : Allocator α) (n : Nat) (β : Type) (client : Client n β) (memory : α),
    let standing := ((client.run Standing.fresh).run memory).value.2
    some chain ∈ standing.slots
      ∨ ∃ outcome ∈ standing.history, some chain ∈ outcome.2 ∨ chain ∈ outcome.1.chains

theorem Chain.Reachable.agrees {chain : Chain} (h : chain.Reachable) : chain.Agrees := by
  obtain ⟨α, _, n, β, client, memory, hlive⟩ := h
  have hsound : Standing.Sound ((client.run Standing.fresh).run memory).value.2 :=
    client.ensures_run Standing.sound_fresh memory
  rcases hlive with hslots | ⟨outcome, houtcome, hslots | hanswer⟩
  · exact hsound.1 chain hslots
  · exact (hsound.2 outcome houtcome).1 chain hslots
  · exact (hsound.2 outcome houtcome).2 chain hanswer

/-! ## Sessions -/

/-- A session is a run of calls too, and memory may even be exchanged between them. -/
theorem Session.sound_of_mem_run {α : Type} [Allocator α] {n : Nat} (ops : List (Op α n)) :
    ∀ {session : Session α n}, session.slots.Agree →
      ∀ step ∈ session.run ops, Sound (step.answer, step.after.slots) := by
  induction ops with
  | nil => intro session _ step hstep; exact absurd hstep List.not_mem_nil
  | cons op ops ih =>
    intro session h step hstep
    have hfirst : Sound ((session.step op).answer, (session.step op).after.slots) := by
      cases op with
      | call call => exact call.ensures_perform h session.memory
      | setMemory memory => exact sound_of_agree h rfl
      | setThreshold threshold => exact sound_of_agree h rfl
    rcases List.mem_cons.mp hstep with heq | hmem
    · exact heq ▸ hfirst
    · exact ih hfirst.1 step hmem

end PrependList
