import PrependList.Demo.Basic
import PrependList.Proofs.Chain.Growth
import PrependList.Proofs.Session.Agreement

/-!
# What is spent and what comes of it

Every node that leaves a budget is named by one event, also if the build that asked for it fails
later and throws away what it had. `Accounts` says so of a computation, together with a property of
its value that may speak of the number of nodes. It goes through `>>=`, so through walks.

A chain that comes out of an operation is another one, or the empty one, with exactly so many values
in front (`Chain.Extends`): one lemma for each operation that asks for nodes.
-/

namespace PrependList

/-- The event of a node that went into a chain. -/
def Event.isPrepend : Event → Bool
  | .prepended _ _ => true
  | _ => false

/-- The number of nodes that these events name. -/
def prepends (events : List Event) : Nat := events.countP Event.isPrepend

@[simp] theorem prepends_append (first second : List Event) :
    prepends (first ++ second) = prepends first + prepends second := List.countP_append

/-! ## Computations on a budget -/

namespace Traced

variable {β γ : Type} {act : Traced Budget β} {P : Nat → β → Prop} {Q : Nat → γ → Prop}

/-- Every node that leaves the budget is named by one event, and the value has the property, which
may speak of the number of these nodes. -/
def Accounts (act : Traced Budget β) (P : Nat → β → Prop) : Prop :=
  ∀ left, ∃ rest, (act.run ⟨some left⟩).memory = ⟨some rest⟩
    ∧ rest + prepends (act.run ⟨some left⟩).events = left
    ∧ P (prepends (act.run ⟨some left⟩).events) (act.run ⟨some left⟩).value

theorem Accounts.pure {value : β} (h : P 0 value) : (pure value : Traced Budget β).Accounts P :=
  fun left => ⟨left, rfl, rfl, h⟩

theorem Accounts.emit {event : Event} (hevent : event.isPrepend = false) :
    (Traced.emit event : Traced Budget Unit).Accounts fun spent _ => spent = 0 := by
  intro left
  have hcount : prepends [event] = 0 := by
    rw [prepends, List.countP_singleton, hevent]
    rfl
  rw [run_emit]
  exact ⟨left, rfl, by rw [hcount]; rfl, hcount⟩

theorem Accounts.bind {next : β → Traced Budget γ} (h : act.Accounts P)
    (hnext : ∀ spent value, P spent value →
      (next value).Accounts fun more result => Q (spent + more) result) :
    (act >>= next).Accounts Q := by
  intro left
  obtain ⟨middle, hmiddle, hfirst, hvalue⟩ := h left
  obtain ⟨rest, hrest, hsecond, hresult⟩ := hnext _ _ hvalue middle
  rw [run_bind, hmiddle]
  refine ⟨rest, hrest, ?_, ?_⟩
  · rw [Trace.after, prepends_append]
    omega
  · rw [Trace.after, prepends_append]
    exact hresult

theorem Accounts.mono {P' : Nat → β → Prop} (h : act.Accounts P)
    (hP : ∀ spent value, P spent value → P' spent value) : act.Accounts P' := by
  intro left
  obtain ⟨rest, hmemory, hsum, hvalue⟩ := h left
  exact ⟨rest, hmemory, hsum, hP _ _ hvalue⟩

end Traced

namespace Chain

open Traced

variable {β : Type} {visit : Visitor Budget β} {I : Nat → β → Prop}

/-- **What a walk spends is what its visitor spends.** -/
theorem accounts_walk
    (hvisit : ∀ spent state value, I spent state →
      (visit state value).Accounts fun more next => I (spent + more) next)
    (values : List Int32) :
    ∀ {spent : Nat} {state : β}, I spent state →
      (walk visit state values).Accounts fun more last => I (spent + more) last := by
  induction values with
  | nil => intro spent state h; exact Accounts.pure h
  | cons value values ih =>
    intro spent state h
    rw [walk, List.foldlM_cons]
    refine Accounts.bind (P := fun more next => I (spent + more) next) ?_
      (fun more next hnext => ?_)
    · refine Accounts.bind (Accounts.emit rfl) (fun none _ hnone => ?_)
      rw [hnone]
      simp only [Nat.zero_add]
      exact hvisit spent state value h
    · have hrest := ih hnext
      simp only [Nat.add_assoc] at hrest
      exact hrest

/-- A visitor that asks for no node. -/
theorem accounts_traverse_idle (chain : Chain)
    (hvisit : ∀ state value, (visit state value).Accounts fun spent _ => spent = 0) (state : β) :
    (chain.traverse visit state).Accounts fun spent _ => spent = 0 := by
  have hwalk : (walk visit state chain.nodes).Accounts fun more _ => 0 + more = 0 := by
    refine accounts_walk (I := fun spent _ => spent = 0) (fun spent state value h => ?_)
      chain.nodes rfl
    rw [h]
    simp only [Nat.zero_add]
    exact hvisit state value
  simp only [Nat.zero_add] at hwalk
  exact hwalk

theorem accounts_tryTraverse_idle (chain : Chain)
    (hvisit : ∀ state value, (visit state value).Accounts fun spent _ => spent = 0) (state : β) :
    (chain.tryTraverse (some visit) state).Accounts fun spent _ => spent = 0 := by
  refine Accounts.bind (Accounts.emit rfl) (fun none _ hnone => ?_)
  refine Accounts.bind (accounts_traverse_idle chain hvisit state)
    (fun spent _ hspent => Accounts.pure ?_)
  rw [hnone, hspent]

/-- The chain is another one with so many values in front. -/
def Extends (chain origin : Chain) (count : Nat) : Prop :=
  ∃ values : List Int32, values.length = count ∧ chain = origin.pushAll values

theorem Extends.refl (chain : Chain) : chain.Extends chain 0 := ⟨[], rfl, rfl⟩

theorem Extends.push {chain origin : Chain} {count : Nat} (h : chain.Extends origin count)
    (value : Int32) : (chain.push value).Extends origin (count + 1) := by
  obtain ⟨values, hlength, hchain⟩ := h
  refine ⟨values ++ [value], ?_, ?_⟩
  · rw [List.length_append, hlength]
    rfl
  · rw [hchain, pushAll, pushAll, List.foldl_append]
    rfl

theorem Extends.trans {chain middle origin : Chain} {count more : Nat}
    (h : middle.Extends origin count) (hmore : chain.Extends middle more) :
    chain.Extends origin (count + more) := by
  obtain ⟨values, hlength, hmiddle⟩ := h
  obtain ⟨others, hothers, hchain⟩ := hmore
  refine ⟨values ++ others, ?_, ?_⟩
  · rw [List.length_append, hlength, hothers]
  · rw [hchain, hmiddle, pushAll, pushAll, pushAll, List.foldl_append]

/-- A number that grows with the chain as its length does. -/
structure Gauge (gauge : Chain → Nat) : Prop where
  empty : gauge .empty = 0
  push : ∀ chain value, gauge (chain.push value) = gauge chain + 1

theorem gauge_length : Gauge length := ⟨rfl, fun _ _ => rfl⟩

theorem gauge_nodes : Gauge fun chain => chain.nodes.length := ⟨rfl, fun _ _ => rfl⟩

theorem Gauge.pushAll {gauge : Chain → Nat} (h : Gauge gauge) (values : List Int32) :
    ∀ chain : Chain, gauge (chain.pushAll values) = gauge chain + values.length := by
  induction values with
  | nil => intro chain; rfl
  | cons value values ih =>
    intro chain
    show gauge ((chain.push value).pushAll values) = _
    rw [ih, h.push, List.length_cons]
    omega

theorem Extends.gauge {gauge : Chain → Nat} (hgauge : Gauge gauge) {chain origin : Chain}
    {count : Nat} (h : chain.Extends origin count) : gauge chain = gauge origin + count := by
  obtain ⟨values, hlength, hchain⟩ := h
  rw [hchain, hgauge.pushAll, hlength]

/-! ### Operations that ask for nodes -/

theorem accounts_prepend (chain : Chain) (value : Int32) :
    (chain.prepend value).Accounts fun spent result => (left result).Extends chain spent := by
  intro nodes
  cases nodes with
  | zero =>
    rw [run_prepend_of_refused rfl]
    exact ⟨0, rfl, rfl, Extends.refl chain⟩
  | succ nodes =>
    rw [run_prepend_of_granted rfl]
    exact ⟨nodes, rfl, rfl, (Extends.refl chain).push value⟩

theorem accounts_prependAll (values : List Int32) :
    ∀ chain : Chain,
      (chain.prependAll values).Accounts fun spent result => (left result).Extends chain spent := by
  induction values with
  | nil => intro chain; exact Accounts.pure (Extends.refl chain)
  | cons value values ih =>
    intro chain
    refine Accounts.bind (accounts_prepend chain value) (fun spent result hresult => ?_)
    cases result with
    | ok longer => exact (ih longer).mono (fun more _ hlast => hresult.trans hlast)
    | error refusal => exact Accounts.pure hresult

/-- A build that fails has spent nodes too, on a chain that nobody gets. -/
theorem accounts_ofValues (values : List Int32) :
    (ofValues values).Accounts fun spent result =>
      ∀ chain, result = .ok chain → chain.Extends empty spent := by
  refine Accounts.bind (Accounts.emit rfl) (fun none _ hnone => ?_)
  refine Accounts.bind (accounts_prependAll values.reverse empty) (fun spent result hresult => ?_)
  refine Accounts.pure (fun chain hchain => ?_)
  rw [hnone, Nat.zero_add]
  cases result with
  | ok built => cases hchain; exact hresult
  | error refusal => cases hchain

theorem accounts_reverse (chain : Chain) :
    chain.reverse.Accounts fun spent reversal => reversal.chain.Extends empty spent := by
  have hadd : ∀ (spent : Nat) (sofar : Reversal) (value : Int32), sofar.chain.Extends empty spent →
      (Reversal.add sofar value : Traced Budget _).Accounts fun more next =>
        next.chain.Extends empty (spent + more) := by
    intro spent sofar value h
    refine Accounts.bind (P := fun more outcome => outcome.2.Extends empty (spent + more)) ?_
      (fun more outcome houtcome => ?_)
    · refine Accounts.bind (accounts_prepend sofar.chain value) (fun more result hresult => ?_)
      cases result with
      | ok longer => exact Accounts.pure (h.trans hresult)
      | error refusal => exact Accounts.pure (h.trans hresult)
    · obtain ⟨granted, longer⟩ := outcome
      cases granted with
      | true => exact Accounts.pure houtcome
      | false => exact Accounts.pure houtcome
  have hwalk : (walk Reversal.add ⟨0, empty⟩ chain.nodes : Traced Budget _).Accounts
      fun more last => last.chain.Extends empty (0 + more) :=
    accounts_walk (I := fun spent (sofar : Reversal) => sofar.chain.Extends empty spent)
      hadd chain.nodes (Extends.refl empty)
  simp only [Nat.zero_add] at hwalk
  exact hwalk

end Chain

/-- What a demonstration asks for is its chain. -/
theorem Demo.accounts_run {σ : Type} (writer : Writer σ) (out : Outlet σ) :
    (Demo.run writer out : Traced Budget _).Accounts fun _ _ => True := by
  refine Traced.Accounts.bind (Chain.accounts_ofValues values) (fun spent result _ => ?_)
  cases result with
  | error error => exact Traced.Accounts.pure trivial
  | ok chain =>
    show (present writer chain out).Accounts fun _ _ => True
    unfold present
    split
    · exact Traced.Accounts.pure trivial
    · -- the walk only prints
      refine Traced.Accounts.bind
        (Chain.accounts_tryTraverse_idle chain (fun _ _ => Traced.Accounts.pure rfl) _)
        (fun _ result _ => ?_)
      cases result with
      | error error => exact Traced.Accounts.pure trivial
      | ok outcome => exact Traced.Accounts.pure trivial

end PrependList
