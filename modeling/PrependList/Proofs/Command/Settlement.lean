import PrependList.Command.Program
import PrependList.Proofs.Command.Grammar

/-!
# What settles a command line

Verbose flags are counted and let the reading go on; the first argument that is anything else is
decisive. What comes behind a request or a refused argument is never looked at, and what comes
behind the separator or a positional argument is set aside as it stands. So a command line is a row
of verbose flags, and then nothing or one decisive argument and a rest, and each part does its own:
the row gives the verbosity, the decisive argument says what happens, and the rest is at most
something to ignore (`settles`).

By the rule (`GoesByRule`) only a request and a known flag with a value keep the demonstration from
running. The main statement is that one more kind of argument does, and no other: a long name that
is no text is refused where the rule would set it aside.
-/

namespace PrependList.Command

/-- How many flags an argument of verbose flags stands for. -/
def flagCount (argument : Argument) : Nat :=
  if argument = Flag.verbose.written then 1 else argument.length - 1

/-- How many flags the arguments stand for together. -/
def flagTotal : List Argument → Nat
  | [] => 0
  | argument :: arguments => flagCount argument + flagTotal arguments

/-- The verbosity that the arguments come to. Counting stops at the greatest. -/
def verbosity (arguments : List Argument) : Nat := min 255 (flagTotal arguments)

namespace Invocation

variable {argument : Argument} {level : Nat}

theorem flagCount_cluster (more : Nat) :
    flagCount (byte '-' :: List.replicate (more + 1) Flag.verbose.initial) = more + 1 := by
  have hne : byte '-' :: List.replicate (more + 1) Flag.verbose.initial ≠ Flag.verbose.written := by
    rw [List.replicate_succ]
    intro h
    exact absurd (List.cons.inj (List.cons.inj h).2).1 (by decide)
  rw [flagCount, if_neg hne, List.length_cons, List.length_replicate, Nat.add_sub_cancel]

/-! ## One argument -/

theorem settle_verbose (h : IsVerbose argument) (level : Nat) (rest : List Argument) :
    settle level (argument :: rest) = settle (raise level (flagCount argument)) rest := by
  rcases h with rfl | ⟨more, rfl⟩
  · rfl
  · have hnone : (List.replicate (more + 1) Flag.verbose).findSome? Flag.request? = none :=
      List.findSome?_eq_none_iff.mpr
        (fun flag hflag => by rw [List.eq_of_mem_replicate hflag]; rfl)
    rw [settle, read_cluster_verbose, flagCount_cluster]
    dsimp only
    rw [hnone, List.length_replicate]

theorem settle_asks {request : Request} (h : Asks request argument) (level : Nat)
    (rest : List Argument) : settle level (argument :: rest) = .request request := by
  obtain ⟨flags, hread, hrequest⟩ := h.read
  rw [settle, hread]
  dsimp only
  rw [hrequest]

theorem settle_refused {refusal : Refusal} (h : IsRefused refusal argument) (level : Nat)
    (rest : List Argument) :
    settle level (argument :: rest) = .refused refusal (decide (0 < level)) := by
  rw [settle, h.read]

theorem settle_separator (level : Nat) (rest : List Argument) :
    settle level (separator :: rest) = .demo level rest := by
  rw [settle, read_separator]

theorem settle_positional (h : IsPositional argument) (level : Nat) (rest : List Argument) :
    settle level (argument :: rest) = .demo level (argument :: rest) := by
  rw [settle, h.read]

/-! ## A row of verbose flags -/

theorem settle_append (before rest : List Argument) (h : ∀ argument ∈ before, IsVerbose argument) :
    ∀ {level : Nat}, level ≤ maxVerbosity →
      settle level (before ++ rest) = settle (raise level (flagTotal before)) rest := by
  induction before with
  | nil =>
    intro level hlevel
    rw [raise, flagTotal, Nat.add_zero, Nat.min_eq_right hlevel]
    rfl
  | cons argument before ih =>
    intro level hlevel
    have hraised : raise level (flagCount argument) ≤ maxVerbosity := Nat.min_le_left _ _
    -- the count stops at the greatest verbosity, so raising it twice is raising it by the sum
    have hsum : raise (raise level (flagCount argument)) (flagTotal before)
        = raise level (flagTotal (argument :: before)) := by
      simp only [raise, flagTotal]
      omega
    rw [List.cons_append, settle_verbose (h argument List.mem_cons_self),
      ih (fun other hother => h other (List.mem_cons_of_mem argument hother)) hraised, hsum]

/-- **A row of verbose flags is worth its verbosity**, whatever follows. -/
theorem ofArguments_append {before : List Argument} (h : ∀ argument ∈ before, IsVerbose argument)
    (rest : List Argument) : ofArguments (before ++ rest) = settle (verbosity before) rest := by
  rw [ofArguments, settle_append before rest h (Nat.zero_le _), raise, Nat.zero_add]
  rfl

end Invocation

/-! ## The whole command line -/

/-- The arguments are verbose flags, and then nothing or a decisive argument and all behind it. -/
structure SplitsInto (arguments before rest : List Argument) : Prop where
  parts : arguments = before ++ rest
  verbose : ∀ argument ∈ before, IsVerbose argument
  decisive : ∀ argument ∈ rest.head?, ¬ IsVerbose argument

/-- **Every command line splits in one way.** -/
theorem exists_splitsInto (arguments : List Argument) :
    ∃ before rest, SplitsInto arguments before rest
      ∧ ∀ other others, SplitsInto arguments other others → other = before ∧ others = rest := by
  classical
  let isVerbose := fun argument => decide (IsVerbose argument)
  have htake : ∀ other others, SplitsInto arguments other others →
      other = arguments.takeWhile isVerbose := by
    rintro other others ⟨rfl, hverbose, hdecisive⟩
    rw [List.takeWhile_append_of_pos (fun argument h => decide_eq_true (hverbose argument h))]
    cases others with
    | nil => exact (List.append_nil other).symm
    | cons first others =>
      have hfirst : ¬ isVerbose first = true :=
        fun h => hdecisive first rfl (of_decide_eq_true h)
      rw [List.takeWhile_cons, if_neg hfirst, List.append_nil]
  have hsplit : SplitsInto arguments (arguments.takeWhile isVerbose)
      (arguments.dropWhile isVerbose) := by
    refine ⟨List.takeWhile_append_dropWhile.symm, fun argument hmem => ?_, fun first hfirst => ?_⟩
    · exact of_decide_eq_true (List.all_eq_true.mp List.all_takeWhile argument hmem)
    · have hnot := List.head?_dropWhile_not isVerbose arguments
      rw [Option.mem_def.mp hfirst] at hnot
      exact of_decide_eq_false hnot
  refine ⟨_, _, hsplit, fun other others h => ?_⟩
  have hother := htake other others h
  -- the first parts are equal, so what is left of the arguments is equal too
  have hparts : other ++ others = other ++ arguments.dropWhile isVerbose := by
    rw [← h.parts, hother]
    exact hsplit.parts
  exact ⟨hother, List.append_cancel_left hparts⟩

/-- What comes of verbose flags with nothing or a decisive argument behind them. -/
structure Settles (before : List Argument) : Prop where
  alone : Invocation.ofArguments before = .demo (verbosity before) []
  /-- The answer to a request, whatever comes behind it. -/
  asked : ∀ request decisive, Asks request decisive → ∀ rest stdout,
    run (before ++ decisive :: rest) stdout = ⟨0, stdout.deliver request.text, [], ""⟩
  /-- The answer to something refused, whatever comes behind it. -/
  refused : ∀ refusal decisive, IsRefused refusal decisive → ∀ rest stdout,
    run (before ++ decisive :: rest) stdout
      = ⟨2, "", [], refusal.message (decide (0 < verbosity before))⟩
  /-- The separator is dropped, and all behind it is ignored. -/
  separated : ∀ rest,
    Invocation.ofArguments (before ++ separator :: rest) = .demo (verbosity before) rest
  /-- A positional argument is ignored with all behind it. -/
  positional : ∀ decisive, IsPositional decisive → ∀ rest,
    Invocation.ofArguments (before ++ decisive :: rest)
      = .demo (verbosity before) (decisive :: rest)

theorem settles {before : List Argument} (h : ∀ argument ∈ before, IsVerbose argument) :
    Settles before where
  alone := by
    have halone := Invocation.ofArguments_append h []
    rwa [List.append_nil] at halone
  asked := by
    intro request decisive hasks rest stdout
    rw [run, Invocation.ofArguments_append h, Invocation.settle_asks hasks]
  refused := by
    intro refusal decisive hrefused rest stdout
    rw [run, Invocation.ofArguments_append h, Invocation.settle_refused hrefused]
  separated := by
    intro rest
    rw [Invocation.ofArguments_append h, Invocation.settle_separator]
  positional := by
    intro decisive hpositional rest
    rw [Invocation.ofArguments_append h, Invocation.settle_positional hpositional]

/-! ## The rule for decisive arguments -/

/-- The argument is a known long flag with a value. -/
def HasValue (argument : Argument) : Prop :=
  ∃ flag value, argument = Flag.written flag ++ byte '=' :: value

/-- The argument is a long name that is no text, with a value or without. -/
def IsUnreadable (argument : Argument) : Prop :=
  ∃ name, IsRefused (.unreadableName name) argument

/-- The rule: what is neither a request nor a known flag with a value comes to a demonstration. It
ignores what is behind a separator, and otherwise everything from the decisive argument on. -/
structure GoesByRule (before rest : List Argument) : Prop where
  alone : rest = [] → Invocation.ofArguments before = .demo (verbosity before) []
  /-- A request answers alike for everything that may be behind it, -/
  asked : ∀ request, ∀ decisive ∈ rest.head?, Asks request decisive → ∀ suffix stdout,
    run (before ++ decisive :: suffix) stdout = ⟨0, stdout.deliver request.text, [], ""⟩
  /-- and so does a flag with a value. -/
  valued : ∀ decisive ∈ rest.head?, HasValue decisive → ∃ complaint, ∀ suffix stdout,
    run (before ++ decisive :: suffix) stdout = ⟨2, "", [], complaint⟩
  separated : ∀ others, rest = separator :: others →
    Invocation.ofArguments (before ++ rest) = .demo (verbosity before) others
  positional : ∀ decisive ∈ rest.head?, (∀ request, ¬ Asks request decisive) →
    ¬ HasValue decisive → decisive ≠ separator →
    Invocation.ofArguments (before ++ rest) = .demo (verbosity before) rest

theorem HasValue.refused {argument : Argument} (h : HasValue argument) :
    ∃ flag value, IsRefused (.unexpectedValue flag value) argument := by
  obtain ⟨flag, value, rfl⟩ := h
  exact ⟨flag, value, IsRefused.value flag value⟩

/-- What is refused has a value or is unreadable. -/
theorem IsRefused.hasValue_or {refusal : Refusal} {argument : Argument}
    (h : IsRefused refusal argument) : HasValue argument ∨ IsUnreadable argument := by
  cases h with
  | value flag value => exact Or.inl ⟨flag, value, rfl⟩
  | name hname hequals htail => exact Or.inr ⟨_, IsRefused.name hname hequals htail⟩

/-- An unreadable name breaks the rule: it is refused where it should start the extra arguments. -/
theorem IsUnreadable.not_goesByRule {before others : List Argument} {decisive : Argument}
    (h : IsUnreadable decisive) (hbefore : ∀ argument ∈ before, IsVerbose argument) :
    ¬ GoesByRule before (decisive :: others) := by
  obtain ⟨name, hname⟩ := h
  intro hrule
  have hvalue : ¬ HasValue decisive := by
    intro hvalue
    obtain ⟨flag, value, hrefused⟩ := hvalue.refused
    exact absurd (hname.read.symm.trans hrefused.read) (by simp)
  have hseparator : decisive ≠ separator := fun heq => separator_alone.2 _ (heq ▸ hname)
  have hdemo := hrule.positional decisive rfl hname.not_asks hvalue hseparator
  rw [Invocation.ofArguments_append hbefore, Invocation.settle_refused hname] at hdemo
  cases hdemo

theorem goesByRule {arguments before rest : List Argument} (h : SplitsInto arguments before rest)
    (hreadable : ∀ decisive ∈ rest.head?, ¬ IsUnreadable decisive) : GoesByRule before rest where
  alone := fun _ => (settles h.verbose).alone
  asked := fun request decisive _ hasks => (settles h.verbose).asked request decisive hasks
  valued := by
    intro decisive _ hvalue
    obtain ⟨flag, value, hrefused⟩ := hvalue.refused
    exact ⟨_, (settles h.verbose).refused _ decisive hrefused⟩
  separated := by
    rintro others rfl
    exact (settles h.verbose).separated others
  positional := by
    intro decisive hdecisive hasks hvalue hseparator
    obtain ⟨others, rfl⟩ : ∃ others, rest = decisive :: others := by
      cases rest with
      | nil => cases hdecisive
      | cons first others => exact ⟨others, by rw [Option.some.inj hdecisive]⟩
    have hpositional : IsPositional decisive := by
      refine ⟨h.decisive decisive rfl, hasks, fun refusal hrefused => ?_, hseparator⟩
      rcases hrefused.hasValue_or with hval | hunreadable
      · exact hvalue hval
      · exact hreadable decisive rfl hunreadable
    exact (settles h.verbose).positional decisive hpositional others

/--
**The first decisive argument settles the command line**, and it does so by the rule unless it is an
unreadable name.

Every command line splits in one way into verbose flags and a rest that is empty or begins with a
decisive argument. What comes of it goes by the rule exactly if that argument is readable; an
unreadable one is refused, whatever is behind it.
-/
theorem settled_by_first_decisive (arguments : List Argument) :
    ∃ before rest, SplitsInto arguments before rest
      ∧ (∀ other others, SplitsInto arguments other others → other = before ∧ others = rest)
      ∧ (GoesByRule before rest ↔ ∀ decisive ∈ rest.head?, ¬ IsUnreadable decisive)
      ∧ ∀ decisive ∈ rest.head?, IsUnreadable decisive → ∃ complaint, ∀ suffix stdout,
          run (before ++ decisive :: suffix) stdout = ⟨2, "", [], complaint⟩ := by
  obtain ⟨before, rest, hsplit, hunique⟩ := exists_splitsInto arguments
  refine ⟨before, rest, hsplit, hunique, ⟨fun hrule decisive hdecisive hunreadable => ?_,
    goesByRule hsplit⟩, fun decisive _ hunreadable => ?_⟩
  · cases rest with
    | nil => cases hdecisive
    | cons first others =>
      rw [Option.some.inj hdecisive] at hrule
      exact hunreadable.not_goesByRule hsplit.verbose hrule
  · obtain ⟨name, hname⟩ := hunreadable
    exact ⟨_, (settles hsplit.verbose).refused _ decisive hname⟩

/-- Three flags in two arguments, and a cluster with one letter too many: it is an extra argument, and
so is the flag behind it. -/
example :
    Invocation.ofArguments
        (["-vv", "--verbose", "-vhx", "-h"].map fun argument => argument.toList.map byte)
      = .demo 3 (["-vhx", "-h"].map fun argument => argument.toList.map byte) := by decide

/-- A long name that is no text is no verbose flag and no request, it is not a known flag with a value
and not the separator, and it is not an extra argument either: the command ends with it. -/
theorem settled_otherwise_by_unreadable_name :
    let argument : Argument := [byte '-', byte '-', 0xFF]
    ¬ IsVerbose argument ∧ (∀ request, ¬ Asks request argument)
      ∧ (∀ flag value, argument ≠ Flag.written flag ++ byte '=' :: value) ∧ argument ≠ separator
      ∧ (∀ level, Invocation.ofArguments [argument] ≠ .demo level [argument])
      ∧ (run [argument] .captured).code = 2 := by
  intro argument
  have hread : read argument = .refused (.unreadableName [0xFF]) := by decide
  have hsettle : Invocation.ofArguments [argument]
      = .refused (.unreadableName [0xFF]) (decide (0 < 0)) := by
    rw [Invocation.ofArguments, Invocation.settle, hread]
  have hflag := not_flag_of_read hread (by simp)
  refine ⟨hflag.1, hflag.2, fun flag value h => ?_, by decide, fun level h => ?_, ?_⟩
  · have hvalue := (IsRefused.value flag value).read
    rw [← h, hread] at hvalue
    cases hvalue
  · rw [hsettle] at h
    cases h
  · rw [run, hsettle]

end PrependList.Command
