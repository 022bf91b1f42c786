import PrependList.Proofs.Command.Output

/-!
# Verbosity

Verbose flags count by their number alone: how they are spelled, and how they are put together in
clusters, makes no difference. In front of a command line they leave alone what it comes to and raise
its verbosity (`Invocation.ofArguments_eq_behind`). From three on more of them change nothing, and
since the count stops at its greatest value instead of starting again, that is so for any number.

For a command line that comes to a demonstration more flags mean more of the same log
(`flags_count_by_number`).
-/

namespace PrependList

namespace Level

theorem rank_ofVerbosity_mono {count more : Nat} (h : count ≤ more) :
    (ofVerbosity count).rank ≤ (ofVerbosity more).rank := by
  rw [rank_ofVerbosity, rank_ofVerbosity]
  omega

theorem ofVerbosity_of_three_le {count : Nat} (h : 3 ≤ count) : ofVerbosity count = .trace := by
  obtain ⟨more, rfl⟩ := Nat.exists_eq_add_of_le' h
  rfl

/-- A log that is more detailed has the lines of the other, in order, and maybe others in between. -/
theorem log_sublist {threshold higher : Level} (h : threshold.rank ≤ higher.rank)
    (events : List Event) : (threshold.log events).Sublist (higher.log events) :=
  (List.monotone_filter_right events fun _ => admits_mono h).map Event.line

end Level

namespace Command

/-! ## Flags in front -/

/-- What comes of a command line with that many verbose flags more in front. -/
def Invocation.behind (count : Nat) : Invocation → Invocation
  | request asked => request asked
  | refused refusal repeated => refused refusal (decide (0 < count) || repeated)
  | demo verbosity ignored => demo (raise verbosity count) ignored

theorem raise_right_comm (level count more : Nat) :
    raise (raise level count) more = raise (raise level more) count := by
  simp only [raise]
  omega

/-- Whatever is read next, flags in front of it change nothing but the verbosity. -/
theorem Invocation.settle_raise (arguments : List Argument) (count : Nat) :
    ∀ level, settle (raise level count) arguments = (settle level arguments).behind count := by
  induction arguments with
  | nil => intro level; rfl
  | cons argument rest ih =>
    intro level
    rw [settle, settle]
    cases read argument with
    | flags flags =>
      dsimp only
      cases flags.findSome? Flag.request? with
      | some asked => rfl
      | none =>
        dsimp only
        rw [raise_right_comm, ih]
    | refused refusal =>
      -- a flag was seen if it is one of those in front or one of those counted so far
      have hseen : decide (0 < raise level count) = (decide (0 < count) || decide (0 < level)) := by
        rw [← Bool.decide_or, decide_eq_decide, raise, maxVerbosity]
        omega
      dsimp only
      rw [hseen]
      rfl
    | separator => rfl
    | positional => rfl

/-- **Of verbose flags in front of a command line only the number counts.** -/
theorem Invocation.ofArguments_eq_behind {flags : List Argument}
    (h : ∀ argument ∈ flags, IsVerbose argument) (rest : List Argument) :
    ofArguments (flags ++ rest) = (ofArguments rest).behind (flagTotal flags) := by
  have hverbosity : verbosity flags = raise 0 (flagTotal flags) := by
    rw [verbosity, raise, Nat.zero_add]
    rfl
  rw [ofArguments_append h, hverbosity, settle_raise]
  rfl

/-! ## The outcome -/

theorem three_le_raise {level count : Nat} (h : 3 ≤ count) : 3 ≤ raise level count := by
  rw [raise, maxVerbosity]
  omega

theorem raise_mono {level count more : Nat} (h : count ≤ more) :
    raise level count ≤ raise level more := by
  rw [raise, raise, maxVerbosity]
  omega

theorem runDemo_of_three_le {level other : Nat} (h : 3 ≤ level) (hother : 3 ≤ other)
    (ignored : List Argument) (stdout : Stdout) :
    runDemo level ignored stdout = runDemo other ignored stdout := by
  rw [runDemo_eq, runDemo_eq, Level.ofVerbosity_of_three_le h,
    Level.ofVerbosity_of_three_le hother]

/-- The second run says more in its log at most. -/
structure LogsMore (less more : Outcome) : Prop where
  code_eq : less.code = more.code
  stdout_eq : less.stdout = more.stdout
  /-- The first log is the second one without some of its lines. -/
  log_sublist : less.log.Sublist more.log
  complaint_eq : less.complaint = more.complaint

theorem logsMore_runDemo {level higher : Nat} (h : level ≤ higher) (ignored : List Argument)
    (stdout : Stdout) :
    LogsMore (runDemo level ignored stdout) (runDemo higher ignored stdout) := by
  rw [runDemo_eq, runDemo_eq]
  exact {
    code_eq := rfl
    stdout_eq := rfl
    log_sublist := Level.log_sublist (Level.rank_ofVerbosity_mono h) _
    complaint_eq := rfl }

section

variable {flags others : List Argument}

/-- From three on the number of flags in front does not matter, whatever comes behind them. -/
theorem run_of_three_le (hflags : ∀ argument ∈ flags, IsVerbose argument)
    (hothers : ∀ argument ∈ others, IsVerbose argument) (h : 3 ≤ flagTotal flags)
    (hother : 3 ≤ flagTotal others) (rest : List Argument) (stdout : Stdout) :
    run (flags ++ rest) stdout = run (others ++ rest) stdout := by
  rw [run, run, Invocation.ofArguments_eq_behind hflags, Invocation.ofArguments_eq_behind hothers]
  cases Invocation.ofArguments rest with
  | request asked => rfl
  | refused refusal repeated =>
    have hseen : decide (0 < flagTotal flags) = decide (0 < flagTotal others) := by
      rw [decide_eq_decide]
      omega
    dsimp only [Invocation.behind]
    rw [hseen]
  | demo level ignored =>
    exact runDemo_of_three_le (three_le_raise h) (three_le_raise hother) ignored stdout

/--
**Verbose flags count by their number**, and from three on not even by that.

In front of any command line, flags of the same number have the same outcome on every standard
output, and so have any three or more. If the command line comes to a demonstration, fewer flags
have the same exit code and the same text on standard output, and a part of the same log.
-/
theorem flags_count_by_number (hflags : ∀ argument ∈ flags, IsVerbose argument)
    (hothers : ∀ argument ∈ others, IsVerbose argument) (rest : List Argument)
    (stdout : Stdout) :
    (flagTotal flags = flagTotal others ∨ (3 ≤ flagTotal flags ∧ 3 ≤ flagTotal others) →
        run (flags ++ rest) stdout = run (others ++ rest) stdout)
      ∧ ((∃ level ignored, Invocation.ofArguments rest = .demo level ignored) →
        flagTotal flags < flagTotal others →
          LogsMore (run (flags ++ rest) stdout) (run (others ++ rest) stdout)) := by
  have hfront := Invocation.ofArguments_eq_behind hflags rest
  have hother := Invocation.ofArguments_eq_behind hothers rest
  constructor
  · rintro (hsame | ⟨hthree, hthree'⟩)
    · rw [run, run, hfront, hother, hsame]
    · exact run_of_three_le hflags hothers hthree hthree' rest stdout
  · rintro ⟨level, ignored, hdemo⟩ hfewer
    rw [run, run, hfront, hother, hdemo]
    exact logsMore_runDemo (raise_mono (Nat.le_of_lt hfewer)) ignored stdout

end

/-- As many letters as the counter has values are not taken for none of them. -/
theorem flags_count_by_number_many :
    let many : List Argument := [byte '-' :: List.replicate (255 + 1) Flag.verbose.initial]
    let three : List Argument := ["--verbose", "-vv"].map fun argument => argument.toList.map byte
    let one : List Argument := ["-v".toList.map byte]
    let refused : List Argument := ["--help=1".toList.map byte]
    let ignored : List Argument := ["x".toList.map byte]
    run (many ++ refused) .captured = run (three ++ refused) .captured
      ∧ LogsMore (run (one ++ ignored) .captured) (run (many ++ ignored) .captured) := by
  intro many three one refused ignored
  have hmany : ∀ argument ∈ many, IsVerbose argument :=
    List.forall_mem_singleton.mpr (Or.inr ⟨255, rfl⟩)
  have hthree : ∀ argument ∈ three, IsVerbose argument :=
    List.forall_mem_cons.mpr
      ⟨Or.inl (by decide), List.forall_mem_singleton.mpr (Or.inr ⟨1, by decide⟩)⟩
  have hone : ∀ argument ∈ one, IsVerbose argument :=
    List.forall_mem_singleton.mpr (Or.inr ⟨0, by decide⟩)
  have htotal : flagTotal many = 255 + 1 := by
    rw [flagTotal, Invocation.flagCount_cluster, flagTotal]
  have hdemo : Invocation.ofArguments ignored = .demo 0 ignored := by decide
  refine ⟨(flags_count_by_number hmany hthree refused .captured).1 (Or.inr ⟨?_, by decide⟩),
    (flags_count_by_number hone hmany ignored .captured).2 ⟨0, ignored, hdemo⟩ ?_⟩
  · rw [htotal]
    decide
  · rw [htotal]
    decide

end Command

end PrependList
