import PrependList.Proofs.Accounting
import PrependList.Proofs.Chain.Reversal
import PrependList.Proofs.Session.Course

/-!
# The books of a budget

Nodes leave a budget in many places: in single prepends, in builds and copies, in reversals, in
demonstrations, and in visitors that prepend while a walk goes on. Meanwhile chains are dropped,
replaced, moved, and handed back inside refusals. What holds throughout is a balance of three: the
nodes that are left, the nodes that events name, and the chains in the slots.

One call keeps it (`Call.accounts_perform`), so one deed does, and by induction a course of any
deeds (`Moment.spends_after`). After the budget is spent the balance leaves nothing to grow from.
-/

namespace PrependList

/-! ## Slots -/

namespace Slots

variable {n : Nat}

/-- The sum of a number over the chains in the slots. -/
def total (gauge : Chain → Nat) (slots : Slots n) : Nat :=
  slots.toList.foldr (fun content others => content.elim 0 gauge + others) 0

theorem total_set_list (gauge : Chain → Nat) (content : Option Chain) :
    ∀ (contents : List (Option Chain)) (i : Nat) (h : i < contents.length),
      (contents.set i content).foldr (fun content others => content.elim 0 gauge + others) 0
          + (contents.get ⟨i, h⟩).elim 0 gauge
        = contents.foldr (fun content others => content.elim 0 gauge + others) 0
          + content.elim 0 gauge := by
  intro contents
  induction contents with
  | nil => intro i h; exact absurd h (Nat.not_lt_zero i)
  | cons first rest ih =>
    intro i h
    cases i with
    | zero =>
      show (content.elim 0 gauge + _) + first.elim 0 gauge = _
      rw [List.foldr_cons]
      omega
    | succ i =>
      have hrest := ih i (Nat.lt_of_succ_lt_succ h)
      rw [List.set_cons_succ, List.foldr_cons, List.foldr_cons]
      show _ + (rest.get ⟨i, Nat.lt_of_succ_lt_succ h⟩).elim 0 gauge = _
      omega

/-- Filling a slot changes the sum by what goes in and what was there. -/
theorem total_set (gauge : Chain → Nat) (slots : Slots n) (slot : Fin n) (content : Option Chain) :
    total gauge (slots.set slot content slot.isLt) + (slots.get slot).elim 0 gauge
      = total gauge slots + content.elim 0 gauge := by
  have hlist := total_set_list gauge content slots.toList slot (by simp)
  rw [total, Vector.toList_set]
  exact hlist

/-- So many nodes account for all that is in the slots afterwards. -/
structure Spends (before after : Slots n) (spent : Nat) : Prop where
  /-- The chains together have grown by no more. -/
  total : ∀ {gauge}, Chain.Gauge gauge → after.total gauge ≤ before.total gauge + spent
  /-- Every chain is an earlier one, or the empty one, with no more values in front. -/
  origin : ∀ chain : Chain, some chain ∈ after → ∃ origin count,
    (origin = .empty ∨ some origin ∈ before) ∧ chain.Extends origin count ∧ count ≤ spent

variable {before middle after : Slots n} {spent more : Nat}

theorem Spends.same (slots : Slots n) (spent : Nat) : slots.Spends slots spent where
  total := fun _ => Nat.le_add_right _ spent
  origin := fun chain hchain =>
    ⟨chain, 0, Or.inr hchain, Chain.Extends.refl chain, Nat.zero_le spent⟩

theorem Spends.trans (h : before.Spends middle spent) (hmore : middle.Spends after more) :
    before.Spends after (spent + more) := by
  refine ⟨fun hgauge => ?_, fun chain hchain => ?_⟩
  · have hfirst := h.total hgauge
    have hsecond := hmore.total hgauge
    omega
  · obtain ⟨origin, count, horigin, hextends, hcount⟩ := hmore.origin chain hchain
    rcases horigin with hempty | hmem
    · exact ⟨origin, count, Or.inl hempty, hextends, by omega⟩
    · obtain ⟨first, earlier, hfirst, hgrown, hearlier⟩ := h.origin origin hmem
      exact ⟨first, earlier + count, hfirst, hgrown.trans hextends, by omega⟩

/-- What goes into a slot is vacancy, or what came of the chain in it or of the empty one. -/
theorem Spends.set (slots : Slots n) (slot : Fin n) {content : Option Chain}
    (hcontent : ∀ chain, content = some chain → ∃ origin,
      (origin = .empty ∨ slots.get slot = some origin) ∧ chain.Extends origin spent) :
    slots.Spends (slots.set slot content slot.isLt) spent := by
  refine ⟨fun {gauge} hgauge => ?_, fun chain hchain => ?_⟩
  · have hsum := slots.total_set gauge slot content
    have hmost : content.elim 0 gauge ≤ (slots.get slot).elim 0 gauge + spent := by
      cases content with
      | none => exact Nat.zero_le _
      | some chain =>
        obtain ⟨origin, horigin, hextends⟩ := hcontent chain rfl
        show gauge chain ≤ _
        rw [hextends.gauge hgauge]
        rcases horigin with rfl | hslot
        · rw [hgauge.empty]
          omega
        · rw [hslot]
          exact Nat.le_refl _
    omega
  · rcases Vector.mem_or_eq_of_mem_set hchain with hmem | heq
    · exact (Spends.same slots spent).origin chain hmem
    · obtain ⟨origin, horigin, hextends⟩ := hcontent chain heq.symm
      refine ⟨origin, spent, ?_, hextends, Nat.le_refl spent⟩
      rcases horigin with hempty | hslot
      · exact Or.inl hempty
      · exact Or.inr (hslot ▸ Vector.getElem_mem slot.isLt)

/-- A chain that was made from nothing. -/
theorem Spends.put (slots : Slots n) (slot : Fin n) {chain : Chain}
    (h : chain.Extends .empty spent) :
    slots.Spends (slots.set slot (some chain) slot.isLt) spent :=
  Spends.set slots slot (fun _ heq => Option.some.inj heq ▸ ⟨_, Or.inl rfl, h⟩)

/-- The chain of the slot, after more went in front of it. -/
theorem Spends.grow (slots : Slots n) (slot : Fin n) {chain origin : Chain}
    (hslot : slots.get slot = some origin) (h : chain.Extends origin spent) :
    slots.Spends (slots.set slot (some chain) slot.isLt) spent :=
  Spends.set slots slot (fun _ heq => Option.some.inj heq ▸ ⟨_, Or.inr hslot, h⟩)

/-- Two slots exchange what they hold. -/
theorem Spends.swap (slots : Slots n) (slot target : Fin n) :
    slots.Spends ((slots.set slot (slots.get target) slot.isLt).set target (slots.get slot)
      target.isLt) 0 := by
  have hkept : (slots.set slot (slots.get target) slot.isLt).get target = slots.get target := by
    show (slots.set slot (slots.get target) slot.isLt)[target.val] = _
    rw [Vector.getElem_set]
    split
    · rfl
    · rfl
  have hmem : ∀ (slot : Fin n) (chain : Chain), some chain = slots.get slot → some chain ∈ slots :=
    fun slot chain heq => heq ▸ Vector.getElem_mem slot.isLt
  refine ⟨fun {gauge} _ => ?_,
    fun chain hchain => ⟨chain, 0, Or.inr ?_, .refl chain, Nat.le_refl 0⟩⟩
  · have hfirst := slots.total_set gauge slot (slots.get target)
    have hsecond := total_set gauge (slots.set slot (slots.get target) slot.isLt) target
      (slots.get slot)
    rw [hkept] at hsecond
    omega
  · rcases Vector.mem_or_eq_of_mem_set hchain with hfirst | heq
    · rcases Vector.mem_or_eq_of_mem_set hfirst with hold | heq
      · exact hold
      · exact hmem target chain heq
    · exact hmem slot chain heq

end Slots

/-! ## Calls and deeds -/

namespace Call

open Traced

variable {n : Nat} {slots : Slots n}

theorem accounts_withChain (slot : Fin n) {act : Chain → Traced Budget (Answer × Slots n)}
    (hact : ∀ chain, slots.get slot = some chain →
      (act chain).Accounts fun spent outcome => slots.Spends outcome.2 spent) :
    (withChain slots slot act).Accounts fun spent outcome => slots.Spends outcome.2 spent := by
  unfold withChain
  split
  · rename_i chain hchain
    exact hact chain hchain
  · exact Accounts.pure (Slots.Spends.same slots 0)

/-- **What a call spends accounts for what it leaves.** -/
theorem accounts_perform (call : Call n) :
    (call.perform slots : Traced Budget _).Accounts fun spent outcome =>
      slots.Spends outcome.2 spent := by
  have hlook : ∀ {answer : Answer}, (pure (answer, slots) : Traced Budget _).Accounts
      fun spent outcome => slots.Spends outcome.2 spent :=
    Accounts.pure (Slots.Spends.same slots 0)
  cases call with
  | clear slot => exact Accounts.pure (Slots.Spends.put slots slot (Chain.Extends.refl .empty))
  | build slot values =>
    refine Accounts.bind (Chain.accounts_ofValues values) (fun spent result hresult => ?_)
    cases result with
    | ok chain => exact Accounts.pure (Slots.Spends.put slots slot (hresult chain rfl))
    | error error => exact Accounts.pure (Slots.Spends.same slots _)
  | prepend slot value recovery =>
    refine accounts_withChain slot (fun chain hchain => ?_)
    refine Accounts.bind (Chain.accounts_prepend chain value) (fun spent result hresult => ?_)
    cases result with
    | ok longer => exact Accounts.pure (Slots.Spends.grow slots slot hchain hresult)
    | error refusal =>
      refine Accounts.pure (Slots.Spends.set slots slot (fun kept hkept => ?_))
      -- two of the three ways put back the chain of the refusal, the third drops it
      cases recovery with
      | chain => cases hkept; exact ⟨chain, Or.inr hchain, hresult⟩
      | parts => cases hkept; exact ⟨chain, Or.inr hchain, hresult⟩
      | cause => cases hkept
  | prependRange slot start step count =>
    refine accounts_withChain slot (fun chain hchain => ?_)
    refine Accounts.bind (Chain.accounts_prependAll _ chain) (fun spent result hresult => ?_)
    cases result with
    | ok longer => exact Accounts.pure (Slots.Spends.grow slots slot hchain hresult)
    | error refusal => exact Accounts.pure (Slots.Spends.grow slots slot hchain hresult)
  | reverse slot target =>
    refine accounts_withChain slot (fun chain hchain => ?_)
    exact Accounts.bind (Chain.accounts_reverse chain)
      (fun spent reversal hreversal => Accounts.pure (Slots.Spends.put slots target hreversal))
  | copy slot target =>
    refine accounts_withChain slot (fun chain hchain => ?_)
    refine Accounts.bind (Chain.accounts_ofValues chain.values) (fun spent result hresult => ?_)
    cases result with
    | ok made => exact Accounts.pure (Slots.Spends.put slots target (hresult made rfl))
    | error error => exact Accounts.pure (Slots.Spends.same slots _)
  | swap slot target => exact Accounts.pure (Slots.Spends.swap slots slot target)
  | drop slot =>
    refine accounts_withChain slot (fun chain hchain => ?_)
    exact Accounts.pure (Slots.Spends.set slots slot (fun _ heq => by cases heq))
  | traverse slot observer =>
    refine accounts_withChain slot (fun chain hchain => ?_)
    exact Accounts.bind (Chain.accounts_traverse_idle chain (fun _ _ => Accounts.pure rfl) _)
      (fun spent _ _ => Accounts.pure (Slots.Spends.same slots _))
  | tryTraverse slot observer? =>
    refine accounts_withChain slot (fun chain hchain => ?_)
    cases observer? with
    | none => exact hlook
    | some observer =>
      refine Accounts.bind
        (Chain.accounts_tryTraverse_idle chain (fun _ _ => Accounts.pure rfl) _)
        (fun spent result _ => ?_)
      cases result with
      | ok observation => exact Accounts.pure (Slots.Spends.same slots _)
      | error error => exact Accounts.pure (Slots.Spends.same slots _)
  | cross slot other =>
    refine accounts_withChain slot (fun chain hchain => ?_)
    refine accounts_withChain other (fun other hother => ?_)
    -- the visitor walks too, with a visitor of its own that asks for nothing
    refine Accounts.bind (Chain.accounts_traverse_idle chain (fun pairs x => ?_) _)
      (fun spent _ _ => Accounts.pure (Slots.Spends.same slots _))
    exact Chain.accounts_traverse_idle other (fun _ _ => Accounts.pure rfl) pairs
  | compare slot other =>
    refine accounts_withChain slot (fun chain hchain => ?_)
    exact accounts_withChain other (fun other hother => hlook)
  | head slot | length slot | isEmpty slot | text slot format | query slot queries =>
    exact accounts_withChain slot (fun chain hchain => hlook)

/-- In a slot that holds a chain. -/
theorem withChain_eq {α : Type} {slot : Fin n} {chain : Chain} (h : slots.get slot = some chain)
    (act : Chain → Traced α (Answer × Slots n)) : withChain slots slot act = act chain := by
  unfold withChain
  split
  · rename_i other hother
    have hsame : other = chain := Option.some.inj (hother.symm.trans h)
    rw [hsame]
  · rename_i hnone
    exact absurd (hnone.symm.trans h) (by simp)

end Call

theorem Deed.accounts_act {n : Nat} (slots : Slots n) (deed : Deed n) :
    (deed.act slots : Traced Budget _).Accounts fun spent outcome =>
      slots.Spends outcome.2 spent := by
  cases deed with
  | call request =>
    refine Traced.Accounts.bind request.accounts_perform (fun spent outcome houtcome => ?_)
    exact Traced.Accounts.pure houtcome
  | demo writer out =>
    exact Traced.Accounts.bind (Demo.accounts_run writer out)
      (fun spent _ _ => Traced.Accounts.pure (Slots.Spends.same slots _))
  | announce length =>
    exact Traced.Accounts.bind (Traced.Accounts.emit rfl)
      (fun spent _ _ => Traced.Accounts.pure (Slots.Spends.same slots _))
  | visit value =>
    exact Traced.Accounts.bind (Traced.Accounts.emit rfl)
      (fun spent _ _ => Traced.Accounts.pure (Slots.Spends.same slots _))

/-! ## Courses -/

namespace Moment

variable {n : Nat} {here there last : Moment Budget n} {left spent more : Nat}

/-- Between the two moments so many of the nodes that were left have been spent. -/
structure Spends (here there : Moment Budget n) (left spent : Nat) : Prop where
  most : spent ≤ left
  memory : there.memory = ⟨some (left - spent)⟩
  events : prepends there.events = prepends here.events + spent
  slots : here.slots.Spends there.slots spent

theorem Spends.trans (h : here.Spends there left spent)
    (hmore : there.Spends last (left - spent) more) : here.Spends last left (spent + more) := by
  have hmost := h.most
  have hrest := hmore.most
  refine ⟨by omega, ?_, ?_, h.slots.trans hmore.slots⟩
  · rw [hmore.memory, Nat.sub_sub]
  · rw [hmore.events, h.events, Nat.add_assoc]

/-- **One deed keeps the balance.** -/
theorem spends_does (h : here.memory = ⟨some left⟩) (deed : Deed n) :
    ∃ spent, here.Spends (here.does deed).2 left spent := by
  obtain ⟨rest, hmemory, hsum, hslots⟩ := deed.accounts_act here.slots left
  refine ⟨prepends ((deed.act here.slots).run here.memory).events, ?_⟩
  rw [← h] at hmemory hsum hslots
  refine ⟨by omega, ?_, prepends_append _ _, hslots⟩
  show ((deed.act here.slots).run here.memory).memory = _
  rw [hmemory, ← hsum, Nat.add_sub_cancel]

/-- **So does every course.** -/
theorem spends_after (deeds : List (Deed n)) :
    ∀ {here : Moment Budget n} {left : Nat}, here.memory = ⟨some left⟩ →
      ∃ spent, here.Spends (here.after deeds) left spent := by
  induction deeds with
  | nil =>
    intro here left h
    exact ⟨0, Nat.zero_le left, h, rfl, Slots.Spends.same here.slots 0⟩
  | cons deed deeds ih =>
    intro here left h
    obtain ⟨spent, hfirst⟩ := spends_does h deed
    obtain ⟨more, hrest⟩ := ih hfirst.memory
    exact ⟨spent + more, hfirst.trans hrest⟩

end Moment

/-! ## After the last node -/

namespace Chain

/-- The last node is gone, so a build that needs one fails. -/
theorem run_ofValues_of_spent {values : List Int32} (h : values ≠ []) :
    ((ofValues values).run (⟨some 0⟩ : Budget)).value = .error .noNode := by
  have hlength : 0 < values.length := List.length_pos_iff.mpr h
  rw [run_ofValues_of_refused hlength (fun i hi => absurd hi (Nat.not_lt_zero i)) rfl]

/-- Every value is left out of a reversal. -/
theorem run_reverse_of_spent (chain : Chain) :
    (chain.reverse.run (⟨some 0⟩ : Budget)).value = ⟨chain.nodes.length, empty⟩ := by
  refine run_reverse_of_refused (fun i _ => ?_)
  rw [Budget.answer_some, decide_eq_false (Nat.not_lt_zero i)]

end Chain

/-- What needs a node, and what comes back if there is none. -/
inductive Starves {n : Nat} (slots : Slots n) : Deed n → Upshot → Prop where
  | build (slot : Fin n) {values : List Int32} (hvalues : values ≠ []) :
    Starves slots (.call (.build slot values)) (.answer (.failed (.allocationFailure nodeBytes)))
  | prepend {slot : Fin n} {chain : Chain} (hslot : slots.get slot = some chain) (value : Int32)
      (recovery : Recovery) :
    Starves slots (.call (.prepend slot value recovery))
      (.answer (.refused ⟨chain, .allocationFailure nodeBytes⟩ recovery))
  | prependRange {slot : Fin n} {chain : Chain} (hslot : slots.get slot = some chain)
      (start step : Int32) {count : Nat} (hcount : 0 < count) :
    Starves slots (.call (.prependRange slot start step count))
      (.answer (.range 0 (some ⟨chain, .allocationFailure nodeBytes⟩)))
  /-- A reversal does not fail, but leaves out what is refused. -/
  | reverse {slot : Fin n} {chain : Chain} (hslot : slots.get slot = some chain) (target : Fin n) :
    Starves slots (.call (.reverse slot target)) (.answer (.reversed chain.nodes.length))
  | copy {slot : Fin n} {chain : Chain} (hslot : slots.get slot = some chain) (target : Fin n)
      (hvalues : chain.values ≠ []) :
    Starves slots (.call (.copy slot target)) (.answer (.failed (.allocationFailure nodeBytes)))
  | demo {σ : Type} (writer : Writer σ) (out : Outlet σ) :
    Starves slots (.demo writer out)
      (.result (.error ⟨.building, .list (.allocationFailure nodeBytes)⟩))

theorem Starves.upshot_eq {n : Nat} {slots : Slots n} {deed : Deed n} {upshot : Upshot}
    (h : Starves slots deed upshot) :
    ((deed.act slots).run (⟨some 0⟩ : Budget)).value.1 = upshot := by
  cases h with
  | build slot hvalues =>
    rw [Deed.act, Call.perform, Traced.run_bind, Traced.run_bind,
      Chain.run_ofValues_of_spent hvalues]
    rfl
  | prepend hslot value recovery =>
    rw [Deed.act, Call.perform, Call.withChain_eq hslot]
    rfl
  | @prependRange slot chain hslot start step count hcount =>
    have hlength : 0 < (Call.range start step count).length := by simpa [Call.range] using hcount
    rw [Deed.act, Call.perform, Call.withChain_eq hslot, Traced.run_bind, Traced.run_bind,
      Chain.run_prependAll_of_refused _ chain hlength (fun i hi => absurd hi (Nat.not_lt_zero i))
        rfl]
    show Upshot.answer (.range (chain.length - chain.length) _) = _
    rw [Nat.sub_self]
    rfl
  | reverse hslot target =>
    rw [Deed.act, Call.perform, Call.withChain_eq hslot, Traced.run_bind, Traced.run_bind,
      Chain.run_reverse_of_spent]
    rfl
  | copy hslot target hvalues =>
    rw [Deed.act, Call.perform, Call.withChain_eq hslot, Traced.run_bind, Traced.run_bind,
      Chain.run_ofValues_of_spent hvalues]
    rfl
  | demo writer out =>
    rw [Deed.act, Demo.run, Traced.run_bind, Traced.run_bind,
      Chain.run_ofValues_of_spent (by decide)]
    rfl

/-! ## The balance -/

namespace Moment

variable {n : Nat}

/-- What the budget, the events and the chains say of each other, for a course that began with these
slots, with so many nodes, and with no event. -/
structure Balanced (start : Slots n) (limit : Nat) (there : Moment Budget n) : Prop where
  most : prepends there.events ≤ limit
  /-- What is left is what no event names. -/
  memory : there.memory = ⟨some (limit - prepends there.events)⟩
  lengths : there.slots.total Chain.length ≤ start.total Chain.length + prepends there.events
  /-- Nor are there more nodes in all chains than that. -/
  nodes : there.slots.total (fun chain => chain.nodes.length)
    ≤ start.total (fun chain => chain.nodes.length) + prepends there.events
  /-- Each chain is one that was there, or the empty one, with values in front. -/
  origin : ∀ chain : Chain, some chain ∈ there.slots → ∃ origin count,
    (origin = .empty ∨ some origin ∈ start) ∧ chain.Extends origin count
      ∧ count ≤ prepends there.events

/-- What holds at every moment after the last node has been spent. -/
structure Starved (here last : Moment Budget n) : Prop where
  memory : last.memory = ⟨some 0⟩
  events : prepends last.events = prepends here.events
  /-- No chain has grown: it was there before as it is now, or it is empty. -/
  chains : ∀ chain : Chain, some chain ∈ last.slots → chain = .empty ∨ some chain ∈ here.slots
  lengths : last.slots.total Chain.length ≤ here.slots.total Chain.length
  /-- What needs a node is refused. -/
  refuses : ∀ deed upshot, Starves last.slots deed upshot → (last.does deed).1 = upshot

theorem balanced_after (start : Slots n) (limit : Nat) (deeds : List (Deed n)) :
    Balanced start limit ((⟨start, ⟨some limit⟩, []⟩ : Moment Budget n).after deeds) := by
  have hstart : (⟨start, ⟨some limit⟩, []⟩ : Moment Budget n).memory = ⟨some limit⟩ := rfl
  obtain ⟨spent, h⟩ := spends_after deeds hstart
  generalize (⟨start, ⟨some limit⟩, []⟩ : Moment Budget n).after deeds = there at h ⊢
  have hspent : prepends there.events = spent := h.events.trans (Nat.zero_add spent)
  subst hspent
  exact ⟨h.most, h.memory, h.slots.total Chain.gauge_length, h.slots.total Chain.gauge_nodes,
    h.slots.origin⟩

theorem starved_after {here : Moment Budget n} (h : here.memory = ⟨some 0⟩)
    (later : List (Deed n)) : here.Starved (here.after later) := by
  obtain ⟨spent, hspends⟩ := spends_after later h
  have hspent : spent = 0 := Nat.le_zero.mp hspends.most
  subst hspent
  have hmemory : (here.after later).memory = ⟨some 0⟩ := hspends.memory
  refine ⟨hmemory, hspends.events, fun chain hchain => ?_,
    hspends.slots.total Chain.gauge_length, fun deed upshot hstarves => ?_⟩
  · -- no value went in front of the chain that this one comes from
    obtain ⟨origin, count, horigin, ⟨values, hlength, hchain⟩, hcount⟩ :=
      hspends.slots.origin chain hchain
    have hvalues : values = [] := List.length_eq_zero_iff.mp (by omega)
    rw [hvalues] at hchain
    have hsame : chain = origin := hchain
    rw [hsame]
    exact horigin
  · show ((deed.act (here.after later).slots).run (here.after later).memory).value.1 = upshot
    rw [hmemory]
    exact hstarves.upshot_eq

/--
**The budget, the events and the chains balance at every moment.**

A course is any sequence of calls, demonstrations, and walks with what visitors do in them. The
nodes that are left and those that events name make up the budget, whether or not the chain came to
be that a node was for; all chains together have grown by no more; and once nothing is left, whatever
needs a node is refused and no chain grows. Every run of a client is such a course, so every moment
of it is one of a course, also in the middle of walks.
-/
theorem balanced_of_course (slots : Slots n) (limit : Nat) :
    let start : Moment Budget n := ⟨slots, ⟨some limit⟩, []⟩
    (∀ deeds, (start.after deeds).Balanced slots limit
        ∧ ((start.after deeds).memory = ⟨some 0⟩ →
          ∀ later, (start.after deeds).Starved ((start.after deeds).after later)))
      ∧ ∀ (β : Type) (client : Client n β), ∃ deeds,
          start.Leads deeds [] ((client.run ⟨slots, []⟩).run ⟨some limit⟩) := by
  intro start
  refine ⟨fun deeds => ⟨balanced_after slots limit deeds, fun hspent later => ?_⟩, ?_⟩
  · exact starved_after hspent later
  · intro β client
    exact client.exists_course start []

/-- Three nodes, and a build that needs four: the part of it that was built is lost, and with it the
nodes. What is asked for after that is refused. -/
theorem balanced_of_course_spent :
    let old : Chain := ⟨[7], 1⟩
    let slots : Slots 2 := #v[some old, none]
    let start : Moment Budget 2 := ⟨slots, ⟨some 3⟩, []⟩
    let spent := start.after [.call (.length 0), .call (.build 1 [1, 2, 3, 4])]
    spent.memory = ⟨some 0⟩
      ∧ prepends spent.events = 3
      ∧ spent.slots.total Chain.length = 1
      ∧ (∀ later, (spent.after later).slots.total Chain.length ≤ 1)
      ∧ (spent.does (.call (.prepend 0 5 .cause))).1
        = .answer (.refused ⟨old, .allocationFailure 16⟩ .cause) := by
  intro old slots start spent
  have hmemory : spent.memory = ⟨some 0⟩ := by decide +kernel
  have htotal : spent.slots.total Chain.length = 1 := by decide +kernel
  obtain ⟨hcourse, -⟩ := balanced_of_course slots 3
  obtain ⟨-, hstarved⟩ := hcourse [.call (.length 0), .call (.build 1 [1, 2, 3, 4])]
  have hprepends : prepends spent.events = 3 := by decide +kernel
  refine ⟨hmemory, hprepends, htotal, fun later => ?_, ?_⟩
  · have hlengths := (hstarved hmemory later).lengths
    rw [show (start.after _).slots.total Chain.length = 1 from htotal] at hlengths
    exact hlengths
  · exact (hstarved hmemory []).refuses _ _ (Starves.prepend (by decide +kernel) 5 .cause)

end Moment

end PrependList
