import PrependList.Demo.Basic
import PrependList.Log.Logger
import PrependList.Log.Story
import PrependList.Session.Basic
import PrependList.Session.Client

/-!
# Hosts

A `Host` is a program that does with the library all that can be done: it makes calls on slots, runs
demonstrations on writers of any kind, and walks chains with visitors that are hosts themselves.
Beyond what a `Client` does, it also has a hand on its surroundings: the host and its visitors can
replace the memory and set the threshold of the log. What a host prints value by value it prints
itself, with `Print.int`.

A host runs in two ways. `run` knows nothing of logging: it sets no threshold, and all that happens
is part of its trace. `listen` is the run with a logger that hears each event when it happens, those
of a walk between two calls of the visitor, and whose threshold the host sets on the way.

`story` is what `run` leaves out: the same events with the settings of the threshold in between. It
has no logger, and takes what the host and its visitors come to from `run`.
-/

namespace PrependList

/-- A program on `n` slots with memory of type `α`, which ends with a `β`. -/
inductive Host (α : Type) (n : Nat) : Type → Type 1 where
  | done {β : Type} (value : β) : Host α n β
  | call {β : Type} (call : Call n) (next : Answer → Host α n β) : Host α n β
  | demo {β σ : Type} (writer : Writer σ) (out : Outlet σ)
      (next : Except Failure Unit × Outlet σ → Host α n β) : Host α n β
  /-- Walk the chain that is in the slot when the walk starts. A vacant slot is walked like an empty
  chain, without a word. -/
  | walk {β γ : Type} (checked : Bool) (slot : Fin n) (visit : γ → Int32 → Host α n γ) (start : γ)
      (next : Except ListError γ → Host α n β) : Host α n β
  | setMemory {β : Type} (memory : α) (next : Host α n β) : Host α n β
  | setThreshold {β : Type} (threshold : Level) (next : Host α n β) : Host α n β

/-- How a host's run ends if a logger has listened. -/
structure Hearing (α : Type) (n : Nat) (β : Type) where
  value : β
  standing : Standing n
  memory : α
  logger : Logger

/-- The story of a walk: each value is announced, and then comes what is told of the visit. What a
visit comes to is up to the visitor. -/
def Story.ofWalk {α σ : Type} (visit : Chain.Visitor α σ) (told : σ → Int32 → α → Story) :
    σ → List Int32 → α → Story
  | _, [], _ => []
  | state, value :: values, memory =>
    let trace := (visit state value).run memory
    .event (.visiting value) :: told state value memory
      ++ ofWalk visit told trace.value values trace.memory

namespace Host

variable {α : Type} {n : Nat}

/-- The host that does the same and leaves the threshold alone. -/
def muted {β : Type} : Host α n β → Host α n β
  | .done value => .done value
  | .call request next => .call request fun answer => (next answer).muted
  | .demo writer out next => .demo writer out fun result => (next result).muted
  | .walk checked slot visit start next =>
    .walk checked slot (fun state value => (visit state value).muted) start
      fun result => (next result).muted
  | .setMemory memory next => .setMemory memory next.muted
  | .setThreshold _ next => next.muted

variable [Allocator α]

/-- Runs the host: its value, how things stand at the end, and all that happened. -/
def run {β : Type} : Host α n β → Standing n → Traced α (β × Standing n)
  | .done value, standing => return (value, standing)
  | .call request next, standing => do
    let outcome ← request.perform standing.slots
    (next outcome.1).run (standing.note outcome)
  | .demo writer out next, standing => do
    let result ← Demo.run writer out
    (next result).run standing
  | .walk checked slot visit start next, standing =>
    match standing.slots.get slot with
    | none => (next (.ok start)).run standing
    | some chain => do
      let step := fun (sofar : _ × Standing n) value => (visit sofar.1 value).run sofar.2
      match ← Client.walkChain checked chain step (start, standing) with
      | .ok (state, standing) => (next (.ok state)).run standing
      | .error error => (next (.error error)).run standing
  | .setMemory memory next, standing => fun _ => (next.run standing).run memory
  | .setThreshold _ next, standing => next.run standing

/-- What happens while the host runs, and what it sets the threshold to, in order. -/
def story {β : Type} : Host α n β → Standing n → α → Story
  | .done _, _, _ => []
  | .call request next, standing, memory =>
    let trace := (request.perform standing.slots).run memory
    trace.events.map .event ++ (next trace.value.1).story (standing.note trace.value) trace.memory
  | .demo writer out next, standing, memory =>
    let trace := (Demo.run writer out).run memory
    trace.events.map .event ++ (next trace.value).story standing trace.memory
  | .walk checked slot visit start next, standing, memory =>
    match standing.slots.get slot with
    | none => (next (.ok start)).story standing memory
    | some chain =>
      let step := fun (sofar : _ × Standing n) value => (visit sofar.1 value).run sofar.2
      let told := fun (sofar : _ × Standing n) value => (visit sofar.1 value).story sofar.2
      let trace := (Chain.walk step (start, standing) chain.nodes).run memory
      (if checked then [.event (.traversing chain.length)] else [])
        ++ Story.ofWalk step told (start, standing) chain.nodes memory
        ++ (next (.ok trace.value.1)).story trace.value.2 trace.memory
  | .setMemory memory next, standing, _ => next.story standing memory
  | .setThreshold threshold next, standing, memory =>
    .setting threshold :: next.story standing memory

/-- Each event of the run with the threshold that is in force when it comes, if it is `threshold` at
the start and others set it as well. -/
def moments {β : Type} (host : Host α n β) (standing : Standing n) (memory : α) (threshold : Level)
    (others : Nat → Option Level) : List (Event × Level) :=
  Story.moments threshold (Story.joined others 0 (host.story standing memory))

/-- Runs the host while a logger listens. -/
def listen {β : Type} : Host α n β → Standing n → α → Logger → Hearing α n β
  | .done value, standing, memory, logger => ⟨value, standing, memory, logger⟩
  | .call request next, standing, memory, logger =>
    let trace := (request.perform standing.slots).run memory
    (next trace.value.1).listen (standing.note trace.value) trace.memory
      (logger.hearAll trace.events)
  | .demo writer out next, standing, memory, logger =>
    let trace := (Demo.run writer out).run memory
    (next trace.value).listen standing trace.memory (logger.hearAll trace.events)
  | .walk checked slot visit start next, standing, memory, logger =>
    match standing.slots.get slot with
    | none => (next (.ok start)).listen standing memory logger
    | some chain =>
      let logger := if checked then logger.hear (.traversing chain.length) else logger
      let last := chain.nodes.foldl
        (fun sofar value =>
          (visit sofar.value value).listen sofar.standing sofar.memory
            (sofar.logger.hear (.visiting value)))
        ⟨start, standing, memory, logger⟩
      (next (.ok last.value)).listen last.standing last.memory last.logger
  | .setMemory memory next, standing, _, logger => next.listen standing memory logger
  | .setThreshold threshold next, standing, memory, logger =>
    next.listen standing memory (logger.set threshold)

end Host

/-- The host that makes the calls of a session, one after another. -/
def Session.host {α : Type} {n : Nat} : List (Op α n) → Host α n Unit
  | [] => .done ()
  | .call request :: ops => .call request fun _ => host ops
  | .setMemory memory :: ops => .setMemory memory (host ops)
  | .setThreshold threshold :: ops => .setThreshold threshold (host ops)

end PrependList
