import PrependList.Proofs.Command.Settlement
import PrependList.Proofs.Demo.EarlyExit
import PrependList.Proofs.Demo.Verdict

/-!
# What the command prints

The demonstration writes into a buffer that takes everything at once, so up to the flush nothing can
fail (`run_demo_buffer`), and all that a broken standard output changes is the end: the result and
whether the last event happens (`run_demonstrate`, `runDemo_eq`).

The command is meant to print its text for every command line on which nobody asks for help or the
version. The main statement says for which command lines it does so (`delivered_iff`): those where,
besides, nothing that is read before the arguments end is refused. An argument that is refused is
neither a request nor ignored, and `--verbose=3` is one (`not_delivered_of_value`).
-/

namespace PrependList.Command

/-! ## The buffer -/

theorem accepts_buffer : buffer.Accepts fun _ => True := by
  intro _ _ c cs
  exact ⟨cs.length, (), rfl, trivial⟩

/-- **The demonstration in front of the flush**: the buffer holds the whole text. -/
theorem run_demo_buffer :
    ∃ out, (Demo.run buffer (Outlet.fresh ())).run Budget.unlimited
        = ⟨(.ok (), out), Budget.unlimited, Demo.built ++ Demo.walked⟩
      ∧ out.written = Demo.text := by
  obtain ⟨middle, hmiddle, -⟩ :=
    Outlet.exists_writeAll accepts_buffer (Outlet.fresh ()) trivial Demo.banner.toList
  obtain ⟨last, hlast, -⟩ :=
    Print.exists_untilFailure accepts_buffer Demo.chain.nodes middle trivial
  refine ⟨last, ?_, ?_⟩
  · rw [Demo.run_of_granted buffer _ (fun i _ => Budget.answer_unlimited i),
      Budget.after_unlimited, Demo.run_present_of_ok hmiddle hlast]
    rfl
  · have hbanner := Outlet.delivers_writeAll buffer (Outlet.fresh ()) Demo.banner.toList
    have hvalues := Print.delivers_foldl_unlessFailed buffer Demo.values middle
    rw [hmiddle] at hbanner
    rw [Print.foldl_unlessFailed, show Demo.values = Demo.chain.nodes from rfl, hlast] at hvalues
    rw [hvalues.written_of_ok, hbanner.written_of_ok]
    rfl

/-! ## The run after the command line is settled -/

/-- The event that names the arguments to ignore, if there are any. -/
def heralds (ignored : List Argument) : List Event :=
  if ignored = [] then [] else [.ignoring ignored]

/-- The event that comes last, if the flush is good. -/
def closing (stdout : Stdout) : List Event :=
  match stdout.flush with
  | .ok () => [.done]
  | .error _ => []

/-- **All of the demonstration but its end is independent of the standard output.** -/
theorem run_demonstrate (ignored : List Argument) (stdout : Stdout) :
    (demonstrate ignored stdout).run Budget.unlimited
      = ⟨(stdout.flush, Demo.text), Budget.unlimited,
          heralds ignored ++ (Demo.built ++ Demo.walked) ++ closing stdout⟩ := by
  obtain ⟨out, hrun, hwritten⟩ := run_demo_buffer
  rw [demonstrate, heralds, ← hwritten]
  by_cases hignored : ignored = []
  · rw [if_neg (not_not_intro hignored), if_pos hignored]
    show (Demo.run buffer (Outlet.fresh ()) >>= _).run Budget.unlimited = _
    rw [Traced.run_bind, hrun]
    cases stdout with
    | captured => rfl
    | failing fault => rfl
  · rw [if_pos hignored, if_neg hignored, Traced.run_bind, Traced.run_emit]
    dsimp only
    rw [Traced.run_bind, hrun]
    cases stdout with
    | captured => rfl
    | failing fault => rfl

/-- **What a demonstration that has been started comes to.** -/
theorem runDemo_eq (level : Nat) (ignored : List Argument) (stdout : Stdout) :
    runDemo level ignored stdout
      = { code := codeOf stdout.flush
          stdout := stdout.deliver "Created linked list 1 2 3 4 5"
          log := (Level.ofVerbosity level).log
            (heralds ignored ++ (Demo.built ++ Demo.walked) ++ closing stdout)
          complaint := complaintOf stdout.flush } := by
  have htext : String.ofList Demo.text = "Created linked list 1 2 3 4 5" := by
    rw [Demo.text_eq, String.ofList_toList]
  rw [runDemo, run_demonstrate]
  dsimp only
  rw [htext]

/-! ## The promise that nothing but help and version changes the output -/

/-- The command did what it does without any argument. -/
def Delivered (outcome : Outcome) : Prop :=
  outcome.stdout = "Created linked list 1 2 3 4 5" ∧ outcome.code = 0

theorem delivered_runDemo (level : Nat) (ignored : List Argument) :
    Delivered (runDemo level ignored .captured) := by
  rw [runDemo_eq]
  exact ⟨rfl, rfl⟩

/-- A row of arguments that contains neither the separator nor a positional argument. -/
def Flags (arguments : List Argument) : Prop :=
  ∀ argument ∈ arguments, argument ≠ separator ∧ ¬ IsPositional argument

/-- What is read before the arguments end, or the separator or a positional argument ends them, is
no request and is not refused. -/
def Acceptable (arguments : List Argument) : Prop :=
  ∀ before argument rest, arguments = before ++ argument :: rest → Flags before →
    (∀ request, ¬ Asks request argument) ∧ ∀ refusal, ¬ IsRefused refusal argument

theorem acceptable_of_verbose {arguments : List Argument}
    (h : ∀ argument ∈ arguments, IsVerbose argument) : Acceptable arguments := by
  rintro before argument rest rfl -
  have hverbose : IsVerbose argument := h argument (by simp)
  exact ⟨hverbose.alone.1, hverbose.alone.2.1⟩

/-- Behind verbose flags the first argument that ends them is the last that is read. -/
theorem acceptable_append {before : List Argument} {decisive : Argument}
    (h : ∀ argument ∈ before, IsVerbose argument)
    (hdecisive : decisive = separator ∨ IsPositional decisive) (rest : List Argument) :
    Acceptable (before ++ decisive :: rest) := by
  have hharmless : (∀ request, ¬ Asks request decisive) ∧ ∀ refusal, ¬ IsRefused refusal decisive := by
    rcases hdecisive with rfl | hpositional
    · exact separator_alone
    · exact ⟨hpositional.not_asks, hpositional.not_refused⟩
  intro flags argument others hparts hflags
  rcases List.append_eq_append_iff.mp hparts with ⟨middle, hleft, hright⟩ | ⟨middle, hleft, hright⟩
  · cases middle with
    | nil => rw [← (List.cons.inj hright).1]; exact hharmless
    | cons first middle =>
      -- the flags would go on past the argument that ends them
      have hmem : decisive ∈ flags := by
        rw [hleft, (List.cons.inj hright).1]
        simp
      rcases hdecisive with hseparator | hpositional
      · exact absurd hseparator (hflags decisive hmem).1
      · exact absurd hpositional (hflags decisive hmem).2
  · cases middle with
    | nil => rw [(List.cons.inj hright).1]; exact hharmless
    | cons first middle =>
      have hmem : argument ∈ before := by
        rw [hleft, (List.cons.inj hright).1]
        simp
      exact ⟨(h argument hmem).alone.1, (h argument hmem).alone.2.1⟩

/-- An argument behind verbose flags is read. -/
theorem Acceptable.of_append {before rest : List Argument} {decisive : Argument}
    (hacceptable : Acceptable (before ++ decisive :: rest))
    (h : ∀ argument ∈ before, IsVerbose argument) :
    (∀ request, ¬ Asks request decisive) ∧ ∀ refusal, ¬ IsRefused refusal decisive :=
  hacceptable before decisive rest rfl
    (fun argument hmem => ⟨(h argument hmem).alone.2.2.1, (h argument hmem).alone.2.2.2⟩)

/--
**The command delivers exactly if no argument that is read is a request or refused.**

The promise is that requests alone keep it from delivering; what is refused breaks it.
-/
theorem delivered_iff (arguments : List Argument) :
    Delivered (run arguments .captured) ↔ Acceptable arguments := by
  obtain ⟨before, rest, ⟨rfl, hbefore, hrest⟩, -⟩ := exists_splitsInto arguments
  have hsettles := settles hbefore
  cases rest with
  | nil =>
    rw [List.append_nil, run, hsettles.alone]
    exact iff_of_true (delivered_runDemo _ _) (acceptable_of_verbose hbefore)
  | cons decisive rest =>
    rcases classes decisive with hverbose | ⟨request, hasks⟩ | ⟨refusal, hrefused⟩ | hseparator
      | hpositional
    · exact absurd hverbose (hrest decisive rfl)
    · -- the text of a request is another one
      refine iff_of_false (fun h => ?_) (fun h => (h.of_append hbefore).1 request hasks)
      rw [hsettles.asked request decisive hasks] at h
      cases request with
      | help => exact absurd h.1 (by decide)
      | version => exact absurd h.1 (by decide)
    · refine iff_of_false (fun h => ?_) (fun h => (h.of_append hbefore).2 refusal hrefused)
      rw [hsettles.refused refusal decisive hrefused] at h
      exact absurd h.2 (show ¬ 2 = 0 by decide)
    · refine iff_of_true ?_ (acceptable_append hbefore (Or.inl hseparator) rest)
      rw [hseparator, run, hsettles.separated]
      exact delivered_runDemo _ _
    · refine iff_of_true ?_ (acceptable_append hbefore (Or.inr hpositional) rest)
      rw [run, hsettles.positional decisive hpositional]
      exact delivered_runDemo _ _

/-- A value on the verbose flag: nothing is asked for, and the command does not deliver. -/
theorem not_delivered_of_value :
    let arguments : List Argument := ["--verbose=3".toList.map byte]
    (∀ before argument rest, arguments = before ++ argument :: rest → Flags before →
        ∀ request, ¬ Asks request argument)
      ∧ ¬ Delivered (run arguments .captured) ∧ (run arguments .captured).code = 2 := by
  intro arguments
  have hrefused : IsRefused (.unexpectedValue .verbose [byte '3']) ("--verbose=3".toList.map byte) :=
    IsRefused.value .verbose [byte '3']
  have hrun : run arguments .captured = ⟨2, "", [], Refusal.message _ _⟩ :=
    (settles (fun _ h => absurd h List.not_mem_nil)).refused _ _ hrefused [] .captured
  refine ⟨fun before argument rest hparts _ request => ?_, fun h => ?_, by rw [hrun]⟩
  · -- the one argument there is
    cases before with
    | nil => rw [← (List.cons.inj hparts).1]; exact hrefused.not_asks request
    | cons first before => exact absurd (List.cons.inj hparts).2 (by simp)
  · rw [hrun] at h
    exact absurd h.2 (show ¬ 2 = 0 by decide)

end PrependList.Command
