import Mathlib.Logic.Function.Basic
import PrependList.Proofs.Session.Agreement
import PrependList.Session.Query

/-!
# Cursors that are asked by turns

A cursor follows the nodes and counts beside them, from a number that was never checked against the
nodes. Each step that gives a value takes one from the count, so a count that starts too low would
have to go below zero. `CountsDown` says that this cannot happen, however far the cursor goes.

Many cursors can stand on one chain and be asked by turns (`askEach`). Two things hold at every
moment. Each cursor has moved by some number of steps from the head, so it has kept the agreement of
count and values with which it started. And a cursor from which values are taken one at a time has
moved by as many steps as it was called, whatever has been asked of the others.
-/

namespace PrependList

namespace Cursor

/-- Each step from here on that gives a value finds something to count down. -/
inductive CountsDown : Cursor → Prop where
  | done {cursor : Cursor} : cursor.next.1 = none → CountsDown cursor
  | step {cursor : Cursor} {value : Int32} : cursor.next.1 = some value →
      cursor.next.2.remaining + 1 = cursor.remaining → CountsDown cursor.next.2 →
      CountsDown cursor

theorem Exact.countsDown {cursor : Cursor} (h : cursor.Exact) : cursor.CountsDown := by
  obtain ⟨ahead, remaining⟩ := cursor
  induction ahead generalizing remaining with
  | nil => exact CountsDown.done rfl
  | cons value ahead ih =>
    have hcount : remaining = ahead.length + 1 := h
    refine CountsDown.step rfl ?_ (ih (remaining - 1) h.next)
    show remaining - 1 + 1 = remaining
    omega

theorem advance_advance (cursor : Cursor) (first second : Nat) :
    (cursor.advance first).advance second = cursor.advance (first + second) := by
  induction first generalizing cursor with
  | zero => rw [advance_zero, Nat.zero_add]
  | succ first ih => rw [advance_succ, ih, Nat.succ_add, advance_succ]

theorem next_eq_advance (cursor : Cursor) : cursor.next.2 = cursor.advance 1 := by
  rw [advance_succ, advance_zero]

/-- At the end nothing is given any more, and before it the value at that place. -/
theorem next_advance (cursor : Cursor) (count : Nat) :
    (cursor.advance count).next.1 = cursor.ahead[count]? := by
  rw [← List.head?_drop]
  show (Cursor.next ⟨cursor.ahead.drop count, _⟩).1 = _
  cases cursor.ahead.drop count with
  | nil => rfl
  | cons value rest => rfl

end Cursor

namespace Query

/-- The query takes the next value, or none. -/
def single : Query → Bool
  | next | length | sizeHint => true
  | _ => false

/-- The number of steps that a single query takes. -/
def steps : Query → Nat
  | next => 1
  | _ => 0

/-- **Whatever is asked of it, a cursor only moves on.** -/
theorem exists_advance (cursor : Cursor) (query : Query) :
    ∃ count, (ask cursor query).2 = cursor.advance count := by
  cases query with
  | next => exact ⟨1, cursor.next_eq_advance⟩
  | length | sizeHint => exact ⟨0, cursor.advance_zero.symm⟩
  | nth skipped =>
    refine ⟨skipped + 1, ?_⟩
    show (cursor.advance skipped).next.2 = _
    rw [Cursor.next_eq_advance, Cursor.advance_advance]
  | take most => exact ⟨most, rfl⟩
  | position wanted =>
    show ∃ count, (cursor.position wanted).2 = _
    unfold Cursor.position
    split
    · exact ⟨_, rfl⟩
    · exact ⟨_, rfl⟩
  | collect | count | last | largest | smallest | sum => exact ⟨cursor.ahead.length, rfl⟩

theorem exact_ask {cursor : Cursor} (h : cursor.Exact) (query : Query) :
    (ask cursor query).2.Exact := by
  obtain ⟨count, hcount⟩ := exists_advance cursor query
  rw [hcount]
  exact h.advance count

theorem ask_of_single {query : Query} (h : query.single = true) (cursor : Cursor) :
    (ask cursor query).2 = cursor.advance query.steps := by
  cases query with
  | next => exact cursor.next_eq_advance
  | length | sizeHint => exact cursor.advance_zero.symm
  | _ => cases h

/-! ## Many cursors -/

variable {ι : Type} [DecidableEq ι]

/-- The replies to queries that are put one after another, each to the cursor that it names, and the
cursors afterwards. -/
def askEach (cursors : ι → Cursor) : List (ι × Query) → List Reply × (ι → Cursor)
  | [] => ([], cursors)
  | asked :: queries =>
    let outcome := ask (cursors asked.1) asked.2
    let rest := askEach (Function.update cursors asked.1 outcome.2) queries
    (outcome.1 :: rest.1, rest.2)

/-- How often `next` has been called on the cursor. -/
def calls (i : ι) (queries : List (ι × Query)) : Nat := queries.countP fun asked => asked = (i, next)

/-- The two cursors of a pair. -/
def both (first second : Cursor) : Hand → Cursor
  | .first => first
  | .second => second

theorem askBoth_eq (queries : List (Hand × Query)) :
    ∀ first second : Cursor,
      askBoth first second queries = (askEach (both first second) queries).1 := by
  induction queries with
  | nil => intro first second; rfl
  | cons asked queries ih =>
    intro first second
    obtain ⟨hand, query⟩ := asked
    cases hand with
    | first =>
      have hmoved : Function.update (both first second) .first (ask first query).2
          = both (ask first query).2 second := by
        funext hand
        cases hand <;> rfl
      show _ :: askBoth (ask first query).2 second queries = _
      rw [ih, ← hmoved]
      rfl
    | second =>
      have hmoved : Function.update (both first second) .second (ask second query).2
          = both first (ask second query).2 := by
        funext hand
        cases hand <;> rfl
      show _ :: askBoth first (ask second query).2 queries = _
      rw [ih, ← hmoved]
      rfl

/-- A reply is that of the cursor as it stands after the queries before. -/
theorem getElem?_askEach (queries : List (ι × Query)) :
    ∀ (cursors : ι → Cursor) {k : Nat} {asked : ι × Query}, queries[k]? = some asked →
      (askEach cursors queries).1[k]?
        = some (ask ((askEach cursors (queries.take k)).2 asked.1) asked.2).1 := by
  induction queries with
  | nil => intro cursors k asked h; cases h
  | cons first queries ih =>
    intro cursors k asked h
    cases k with
    | zero =>
      have hfirst : first = asked := Option.some.inj h
      subst hfirst
      rfl
    | succ k => exact ih _ h

/-- **Every cursor keeps the agreement of count and values.** -/
theorem exact_askEach (queries : List (ι × Query)) :
    ∀ {cursors : ι → Cursor}, (∀ i, (cursors i).Exact) →
      ∀ i, ((askEach cursors queries).2 i).Exact := by
  induction queries with
  | nil => intro cursors h; exact h
  | cons asked queries ih =>
    intro cursors h
    refine ih (fun i => ?_)
    by_cases hi : i = asked.1
    · rw [hi, Function.update_self]
      exact exact_ask (h asked.1) asked.2
    · rw [Function.update_of_ne hi]
      exact h i

/-- **A cursor does not notice the others**: it has moved by as many steps as it was called. -/
theorem askEach_eq_advance {i : ι} (queries : List (ι × Query)) :
    ∀ {cursors : ι → Cursor}, (∀ asked ∈ queries, asked.1 = i → asked.2.single = true) →
      (askEach cursors queries).2 i = (cursors i).advance (calls i queries) := by
  induction queries with
  | nil => intro cursors _; exact (cursors i).advance_zero.symm
  | cons asked queries ih =>
    intro cursors h
    have hrest := @ih (Function.update cursors asked.1 (ask (cursors asked.1) asked.2).2)
      (fun other hother => h other (List.mem_cons_of_mem asked hother))
    refine hrest.trans ?_
    by_cases hi : i = asked.1
    · obtain ⟨j, query⟩ := asked
      have hj : i = j := hi
      subst hj
      have hsingle : query.single = true := h _ List.mem_cons_self rfl
      have hcalls : calls i ((i, query) :: queries) = query.steps + calls i queries := by
        rw [calls, calls, List.countP_cons]
        cases query <;> simp [steps, Nat.add_comm]
      rw [Function.update_self, ask_of_single hsingle, Cursor.advance_advance, hcalls]
    · have hcalls : calls i (asked :: queries) = calls i queries := by
        have hne : asked ≠ (i, next) := fun heq => hi (by rw [heq])
        rw [calls, calls, List.countP_cons_of_neg (by simpa using hne)]
      rw [Function.update_of_ne hi, hcalls]

end Query

namespace Chain

variable {ι : Type} [DecidableEq ι]

/-- The replies to a row of queries, by cursors that start at the head. -/
def replies (chain : Chain) (queries : List (ι × Query)) : List Query.Reply :=
  (Query.askEach (fun _ => chain.cursor) queries).1

/-- The cursors that started at the head, after a row of queries. -/
def cursorsAfter (chain : Chain) (queries : List (ι × Query)) : ι → Cursor :=
  (Query.askEach (fun _ => chain.cursor) queries).2

/-- The number of values that so many calls of `next` leave. -/
def leftBy (chain : Chain) (calls : Nat) : Nat := chain.nodes.length - min calls chain.nodes.length

/-- How the cursor `i` stands in a row of queries before the one with the number `k`, and what it
replies to that. -/
structure StandsBefore (chain : Chain) (queries : List (ι × Query)) (i : ι) (k : Nat) : Prop where
  /-- A call of `next` gives the value whose number is that of the calls before, and nothing if there
  are not so many values. -/
  next_reply : queries[k]? = some (i, .next) →
    (chain.replies queries)[k]? = some (.value chain.nodes[Query.calls i (queries.take k)]?)
  length_eq : (chain.cursorsAfter (queries.take k) i).length
    = chain.leftBy (Query.calls i (queries.take k))
  length_reply : queries[k]? = some (i, .length) →
    (chain.replies queries)[k]? = some (.number (chain.leftBy (Query.calls i (queries.take k))))
  /-- Both bounds are that number. -/
  sizeHint_eq : (chain.cursorsAfter (queries.take k) i).sizeHint
    = (chain.leftBy (Query.calls i (queries.take k)),
      some (chain.leftBy (Query.calls i (queries.take k))))
  sizeHint_reply : queries[k]? = some (i, .sizeHint) →
    (chain.replies queries)[k]? = some (.bounds (chain.leftBy (Query.calls i (queries.take k)),
      some (chain.leftBy (Query.calls i (queries.take k)))))

theorem Agrees.standsBefore {chain : Chain} (h : chain.Agrees) {queries : List (ι × Query)} {i : ι}
    (hsingle : ∀ asked ∈ queries, asked.1 = i → asked.2.single = true) (k : Nat) :
    chain.StandsBefore queries i k := by
  have hplace : chain.cursorsAfter (queries.take k) i
      = chain.cursor.advance (Query.calls i (queries.take k)) :=
    Query.askEach_eq_advance (queries.take k)
      (fun asked hasked => hsingle asked (List.mem_of_mem_take hasked))
  have hleft : (chain.cursorsAfter (queries.take k) i).remaining
      = chain.leftBy (Query.calls i (queries.take k)) := by
    rw [hplace]
    show chain.size - _ = _
    rw [show chain.size = chain.nodes.length from h]
    rfl
  have hbounds : (chain.cursorsAfter (queries.take k) i).sizeHint
      = (chain.leftBy (Query.calls i (queries.take k)),
        some (chain.leftBy (Query.calls i (queries.take k)))) := by
    rw [Cursor.sizeHint, hleft]
  -- the reply is that of the cursor as it stands after the queries before
  have hreply : ∀ query, queries[k]? = some (i, query) → (chain.replies queries)[k]?
      = some (Query.ask (chain.cursorsAfter (queries.take k) i) query).1 :=
    fun query hasked => Query.getElem?_askEach queries _ hasked
  refine ⟨fun hasked => ?_, hleft, fun hasked => ?_, hbounds, fun hasked => ?_⟩
  · rw [hreply _ hasked, hplace]
    show some (Query.Reply.value (chain.cursor.advance _).next.1) = _
    rw [Cursor.next_advance]
    rfl
  · rw [hreply _ hasked, ← hleft]
    rfl
  · rw [hreply _ hasked, ← hbounds]
    rfl

/--
**Cursors over a chain that can be reached keep step with it.**

Any number of cursors start at the head and are asked in any order; one that is made later is one that
was not asked before. At every moment every one of them is able to count down as far as it can go. And
from a cursor that is asked for single values the call with the number `j`, counted from zero, gets
the value with that number, or nothing if there are not so many; its length and both bounds of its
size are the number of values less that of the calls, and zero once all values are taken.
-/
theorem cursors_keep_step {chain : Chain} (h : chain.Reachable) (queries : List (ι × Query)) :
    (∀ k i, (chain.cursorsAfter (queries.take k) i).CountsDown)
      ∧ ∀ i, (∀ asked ∈ queries, asked.1 = i → asked.2.single = true) →
          ∀ k, chain.StandsBefore queries i k := by
  have hagrees : chain.Agrees := h.agrees
  refine ⟨fun k i => ?_, fun i hsingle k => hagrees.standsBefore hsingle k⟩
  have hexact := Query.exact_askEach (queries.take k) (fun _ : ι => hagrees.cursor)
  exact (hexact i).countsDown

/-- The chain has been through a refused prepend. Of two cursors one is called four times, twice past
the end, and the other one takes everything in between. -/
theorem cursors_keep_step_pair :
    let chain : Chain := ⟨[7, -1], 2⟩
    let queries : List (Query.Hand × Query) := [(.first, .next), (.second, .nth 1), (.first, .length),
      (.second, .collect), (.first, .next), (.first, .next), (.first, .sizeHint), (.first, .next)]
    let replies := Query.askBoth chain.cursor chain.cursor queries
    chain.Reachable
      ∧ replies[0]? = some (.value (some 7)) ∧ replies[2]? = some (.number 1)
      ∧ replies[6]? = some (.bounds (0, some 0)) ∧ replies[7]? = some (.value none)
      ∧ ∀ k hand, (chain.cursorsAfter (queries.take k) hand).CountsDown := by
  intro chain queries replies
  have hreachable : chain.Reachable :=
    ⟨Budget, inferInstance, 1, Unit, .call (.build 0 [7, -1]) fun _ =>
        .call (.prepend 0 5 .parts) fun _ => .done (), ⟨some 2⟩, Or.inl (by decide +kernel)⟩
  obtain ⟨hdown, hstands⟩ := cursors_keep_step hreachable queries
  have hfirst := hstands .first (by decide)
  have hreplies : replies = chain.replies queries := by
    have hboth : Query.both chain.cursor chain.cursor = fun _ => chain.cursor := by
      funext hand
      cases hand <;> rfl
    rw [Chain.replies, ← hboth]
    exact Query.askBoth_eq queries _ _
  rw [hreplies]
  exact ⟨hreachable, (hfirst 0).next_reply rfl, (hfirst 2).length_reply rfl,
    (hfirst 6).sizeHint_reply rfl, (hfirst 7).next_reply rfl, hdown⟩

end Chain

end PrependList
