import PrependList.Proofs.Chain.Iteration
import PrependList.Proofs.Log.Selection
import PrependList.Session.Host

/-!
# Logging selects and does nothing else

Two hosts that differ in nothing but the thresholds they set do the same on the same memory, and all
that a logger does is to keep, of all events, those that are admitted at the moment.

What the moment is, no logger has a say in: it is read off the story of the host, which is told with
the help of the run alone. A run with a logger and the run that knows of none are interpreters of
their own: one hands each event of a walk to the logger before the visitor goes on, the other
collects what happens. One equation (`Host.listen_eq`) says that listening is running, with a logger
that follows the story. It is proved by one induction over the host, in which the walk is an
induction over its values. The rest is what a logger makes of a story.

A session keeps the events of a call after the call is over. That this comes to the same as a logger
that listens all the time is `Session.kept_listen`.
-/

namespace PrependList

section

variable {α : Type} {n : Nat} {β γ : Type}

/-- What a walk says before its first value. -/
def Chain.announcement (chain : Chain) (checked : Bool) : List Event :=
  if checked then [.traversing chain.length] else []

theorem Client.run_walkChain (checked : Bool) (chain : Chain) (visit : Chain.Visitor α β)
    (state : β) (memory : α) :
    (walkChain checked chain visit state).run memory
      = let trace := (Chain.walk visit state chain.nodes).run memory
        ⟨.ok trace.value, trace.memory, chain.announcement checked ++ trace.events⟩ := by
  cases checked with
  | true => exact chain.run_tryTraverse visit state memory
  | false =>
    rw [walkChain, if_neg Bool.false_ne_true, Traced.run_bind]
    simp only [Traced.run_pure, Trace.after, List.append_nil]
    rfl

/-! ## The story and the run -/

theorem Story.events_ofWalk {visit : Chain.Visitor α β} {told : β → Int32 → α → Story}
    (htold : ∀ state value memory,
      events (told state value memory) = ((visit state value).run memory).events)
    (values : List Int32) :
    ∀ state memory, events (ofWalk visit told state values memory)
      = ((Chain.walk visit state values).run memory).events := by
  induction values with
  | nil => intro state memory; rfl
  | cons value values ih =>
    intro state memory
    rw [ofWalk, Chain.run_walk_cons, events_append, events_cons_event, htold, ih]
    rfl

namespace Host

variable [Allocator α]

/-- **The story has the events of the run.** -/
theorem events_story (host : Host α n β) :
    ∀ standing memory,
      Story.events (host.story standing memory) = ((host.run standing).run memory).events := by
  induction host with
  | done value => intro standing memory; rfl
  | call request next ih =>
    intro standing memory
    rw [story, Story.events_append, Story.events_map_event, ih]
    rfl
  | demo writer out next ih =>
    intro standing memory
    rw [story, Story.events_append, Story.events_map_event, ih]
    rfl
  | walk checked slot visit start next ihvisit ihnext =>
    intro standing memory
    rw [run, story]
    cases standing.slots.get slot with
    | none => exact ihnext _ _ _
    | some chain =>
      have hannounced : Story.events
          (if checked then [.event (.traversing chain.length)] else [])
            = chain.announcement checked := by cases checked <;> rfl
      dsimp only
      rw [Story.events_append, Story.events_append, hannounced, ihnext,
        Story.events_ofWalk fun sofar value memory => ihvisit sofar.1 value sofar.2 memory,
        Traced.run_bind, Client.run_walkChain]
      rfl
  | setMemory memory next ih => intro standing _; exact ih standing memory
  | setThreshold threshold next ih => intro standing memory; exact ih standing memory

end Host

/-! ## Listening -/

/-- The end of a run that leaves this trace, with a logger. -/
def Trace.heardBy (trace : Trace α (β × Standing n)) (logger : Logger) : Hearing α n β :=
  ⟨trace.value.1, trace.value.2, trace.memory, logger⟩

namespace Host

variable [Allocator α]

/-- The walk of a run under a logger: each value is heard, and then the visitor sees it. -/
theorem foldl_listen {visit : γ → Int32 → Host α n γ}
    (hvisit : ∀ state value standing memory logger,
      (visit state value).listen standing memory logger
        = (((visit state value).run standing).run memory).heardBy
            (logger.follow ((visit state value).story standing memory)))
    (values : List Int32) :
    ∀ sofar : Hearing α n γ,
      values.foldl (fun sofar value =>
          (visit sofar.value value).listen sofar.standing sofar.memory
            (sofar.logger.hear (.visiting value))) sofar
        = let step := fun (sofar : γ × Standing n) value => (visit sofar.1 value).run sofar.2
          let told := fun (sofar : γ × Standing n) value => (visit sofar.1 value).story sofar.2
          let start := (sofar.value, sofar.standing)
          ((Chain.walk step start values).run sofar.memory).heardBy
            (sofar.logger.follow (Story.ofWalk step told start values sofar.memory)) := by
  induction values with
  | nil => intro sofar; rfl
  | cons value values ih =>
    intro sofar
    -- the visitor starts with a logger that has heard of the value
    rw [List.foldl_cons, hvisit, ih]
    dsimp only
    rw [Story.ofWalk, Chain.run_walk_cons, List.cons_append, Logger.follow_cons,
      Logger.follow_append]
    rfl

/-- **Listening is running, with a logger that follows the story.** -/
theorem listen_eq (host : Host α n β) :
    ∀ standing memory logger,
      host.listen standing memory logger
        = ((host.run standing).run memory).heardBy (logger.follow (host.story standing memory)) := by
  induction host with
  | done value => intro standing memory logger; rfl
  | call request next ih =>
    intro standing memory logger
    rw [listen, story, Logger.follow_append, Logger.follow_map_event, ih]
    rfl
  | demo writer out next ih =>
    intro standing memory logger
    rw [listen, story, Logger.follow_append, Logger.follow_map_event, ih]
    rfl
  | walk checked slot visit start next ihvisit ihnext =>
    intro standing memory logger
    rw [listen, run, story]
    cases standing.slots.get slot with
    | none => exact ihnext _ _ _ _
    | some chain =>
      have hannounced :
          (if checked then logger.hear (.traversing chain.length) else logger)
            = logger.follow (if checked then [.event (.traversing chain.length)] else []) := by
        cases checked <;> rfl
      dsimp only
      rw [hannounced, foldl_listen ihvisit, ihnext, Traced.run_bind, Client.run_walkChain,
        Logger.follow_append, Logger.follow_append]
      rfl
  | setMemory memory next ih => intro standing _ logger; exact ih standing memory logger
  | setThreshold threshold next ih =>
    intro standing memory logger
    exact ih standing memory (logger.set threshold)

/-- A host that sets no threshold runs like the one that does. -/
theorem run_muted (host : Host α n β) :
    ∀ standing, host.muted.run standing = host.run standing := by
  induction host with
  | done value => intro standing; rfl
  | call request next ih =>
    intro standing
    rw [muted, run, run]
    exact congrArg _ (funext fun outcome => ih outcome.1 _)
  | demo writer out next ih =>
    intro standing
    rw [muted, run, run]
    exact congrArg _ (funext fun result => ih result _)
  | walk checked slot visit start next ihvisit ihnext =>
    intro standing
    rw [muted, run, run]
    simp only [ihvisit, ihnext]
  | setMemory memory next ih => intro standing; rw [muted, run, run, ih]
  | setThreshold threshold next ih => intro standing; rw [muted, run, ih]

end Host

/-! ## Two runs -/

/-- The runs end alike in all but the log. -/
structure Hearing.Alike (first second : Hearing α n β) : Prop where
  value : first.value = second.value
  standing : first.standing = second.standing
  memory : first.memory = second.memory

theorem Trace.alike_heardBy (trace : Trace α (β × Standing n)) (logger other : Logger) :
    (trace.heardBy logger).Alike (trace.heardBy other) := ⟨rfl, rfl, rfl⟩

namespace Host

variable [Allocator α]

theorem selects_listen (host : Host α n β) (standing : Standing n) (memory : α) (threshold : Level)
    (others : Nat → Option Level) :
    (host.listen standing memory (.fresh threshold others)).logger.Selects
      (host.moments standing memory threshold others) ((host.run standing).run memory).events := by
  rw [listen_eq, ← events_story]
  exact Logger.selects_follow threshold others (host.story standing memory)

theorem kept_listen_full (host : Host α n β) (standing : Standing n) (memory : α) :
    (host.listen standing memory .full).logger.kept = ((host.run standing).run memory).events := by
  rw [listen_eq, ← events_story]
  exact Logger.kept_follow_full (host.story standing memory)

/--
**Logging selects from what happens and does nothing else.**

The hosts differ only in the thresholds that they set, at any points and inside visitors. The
loggers start with any thresholds, and others may set them at any event, as they like and
differently in the two runs. The runs end alike: in their values, into which a host can put all that
it or its visitors have seen and all that writers were offered, in the slots and every answer, and
in the memory. The full log has all that happens, and each logger keeps from it, in order, exactly
the events whose level is at or below the threshold that was in force when they came.
-/
theorem logging_only_selects (host other : Host α n β) (h : host.muted = other.muted)
    (standing : Standing n) (memory : α) (threshold threshold' : Level)
    (others others' : Nat → Option Level) :
    let first := host.listen standing memory (.fresh threshold others)
    let second := other.listen standing memory (.fresh threshold' others')
    let whole := host.listen standing memory .full
    first.Alike second ∧ first.Alike whole
      ∧ whole.logger.kept = ((host.run standing).run memory).events
      ∧ first.logger.Selects (host.moments standing memory threshold others) whole.logger.kept
      ∧ second.logger.Selects (other.moments standing memory threshold' others')
          whole.logger.kept := by
  intro first second whole
  -- a run that knows of no logger is the same for both hosts
  have hrun : other.run standing = host.run standing := by rw [← run_muted, ← h, run_muted]
  have hwhole := host.kept_listen_full standing memory
  refine ⟨?_, ?_, hwhole, ?_, ?_⟩
  · dsimp only [first, second]
    rw [listen_eq, listen_eq, hrun]
    exact Trace.alike_heardBy ..
  · dsimp only [first, whole]
    rw [listen_eq, listen_eq]
    exact Trace.alike_heardBy ..
  · rw [hwhole]
    exact host.selects_listen standing memory threshold others
  · rw [hwhole, ← hrun]
    exact other.selects_listen standing memory threshold' others'

/-- The first log is silent up to the first call of a visitor and again after the walk. In the second
one the threshold is lowered by others while the demonstration builds its chain. -/
theorem logging_only_selects_visitor :
    let visit : Level → Unit → Int32 → Host Budget 2 Unit := fun threshold _ value =>
      .call (.prepend 1 value .chain) fun _ => .setThreshold threshold (.done ())
    let present : Host Budget 2 (Except Failure Unit × Outlet Script) :=
      .demo Script.writer (Outlet.fresh Script.generous) fun result => .done result
    let host : Host Budget 2 (Except Failure Unit × Outlet Script) :=
      .call (.build 0 [7, -1]) fun _ => .call (.clear 1) fun _ =>
        .walk true 0 (visit .trace) () fun _ => .setThreshold .off present
    let other : Host Budget 2 (Except Failure Unit × Outlet Script) :=
      .call (.build 0 [7, -1]) fun _ => .call (.clear 1) fun _ =>
        .walk true 0 (visit .debug) () fun _ => present
    let first := host.listen .fresh ⟨some 9⟩ (.fresh .off fun _ => none)
    let second := other.listen .fresh ⟨some 9⟩
      (.fresh .debug fun number => if number = 9 then some .warn else none)
    host.muted = other.muted ∧ first.Alike second
      ∧ first.logger.kept = [.visiting (-1), .prepended (-1) 2]
      ∧ second.logger.kept = [.building 2, .traversing 2, .building 5] := by
  intro visit present host other first second
  have h : host.muted = other.muted := rfl
  obtain ⟨halike, -, -, hfirst, hsecond⟩ :=
    logging_only_selects host other h .fresh ⟨some 9⟩ .off .debug (fun _ => none)
      (fun number => if number = 9 then some .warn else none)
  refine ⟨h, halike, ?_, ?_⟩
  · rw [hfirst.kept]
    decide +kernel
  · rw [hsecond.kept]
    decide +kernel

end Host

end

/-! ## Sessions -/

/-- While nobody else sets the threshold, it is one for all events that come. -/
theorem Logger.hearAll_of_alone (events : List Event) :
    ∀ {logger : Logger}, (logger.others = fun _ => none) →
      (logger.hearAll events).threshold = logger.threshold
        ∧ (logger.hearAll events).others = logger.others
        ∧ (logger.hearAll events).kept = logger.kept ++ logger.threshold.keep events := by
  induction events with
  | nil => intro logger _; exact ⟨rfl, rfl, (List.append_nil _).symm⟩
  | cons event events ih =>
    intro logger h
    have hcurrent : logger.current = logger.threshold := by rw [current, h]; rfl
    have hnext : (logger.hear event).others = fun _ => none := h
    obtain ⟨hthreshold, hothers, hkept⟩ := ih hnext
    have hfirst : (logger.hear event).threshold = logger.threshold := hcurrent
    refine ⟨hthreshold.trans hfirst, hothers, ?_⟩
    show ((logger.hear event).hearAll events).kept = _
    rw [hkept, kept_hear, hfirst, hcurrent, List.append_assoc, ← Level.keep_append]
    rfl

namespace Session

variable {α : Type} [Allocator α] {n : Nat}

/-- **What a session logs call by call is what a logger keeps event by event.** -/
theorem kept_listen (ops : List (Op α n)) :
    ∀ (session : Session α n) (history : List (Answer × Slots n)) (logger : Logger),
      (logger.others = fun _ => none) → logger.threshold = session.threshold →
        ((host ops).listen ⟨session.slots, history⟩ session.memory logger).logger.kept
          = logger.kept ++ (session.run ops).flatMap Step.logged := by
  induction ops with
  | nil => intro session history logger _ _; exact (List.append_nil _).symm
  | cons op ops ih =>
    intro session history logger hothers hthreshold
    rw [run, List.flatMap_cons, ← List.append_assoc]
    cases op with
    | call request =>
      obtain ⟨hafter, halone, hkept⟩ := Logger.hearAll_of_alone
        ((request.perform session.slots).run session.memory).events hothers
      rw [hthreshold] at hkept hafter
      exact (ih (session.step (.call request)).after _ _ (halone.trans hothers) hafter).trans
        (congrArg (· ++ _) hkept)
    | setMemory memory =>
      rw [show (session.step (.setMemory memory)).logged = [] from rfl, List.append_nil]
      exact ih { session with memory } history logger hothers hthreshold
    | setThreshold threshold =>
      rw [show (session.step (.setThreshold threshold)).logged = [] from rfl, List.append_nil]
      exact ih { session with threshold } history (logger.set threshold) hothers rfl

end Session

end PrependList
