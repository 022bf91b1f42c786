import PrependList.Proofs.Command.Output
import PrependList.Proofs.Log.Lines

/-!
# What the exit code and the log tell

The exit code is 2 if the first argument that is no verbose flag is refused, and otherwise it says
whether a demonstration met a broken standard output. A request never does: its text is printed
without a look at what became of it.

A demonstration that meets a broken standard output has done and logged everything but its end. So
compared with the run on a working one, the same lines are on standard error, the last one is
missing, and the failure is reported in its place (`BreaksOff`).

The code is meant to be 2 for a known long flag with a value alone. It is 2 for an unreadable name
as well (`code_two_of_unreadable_name`), where the demonstration should run and ignore it.
-/

namespace PrependList.Command

/-- The argument is the first one that is no verbose flag. -/
def Decides (arguments : List Argument) (decisive : Argument) : Prop :=
  ∃ before rest, SplitsInto arguments before (decisive :: rest)

/-- Nothing keeps the demonstration from running: the first argument that is no verbose flag, if
there is one, is the separator or starts the arguments to ignore. -/
def Demonstrates (arguments : List Argument) : Prop :=
  ∀ decisive, Decides arguments decisive → decisive = separator ∨ IsPositional decisive

/-- The first argument that is no verbose flag asks for something. -/
def Requests (arguments : List Argument) : Prop :=
  ∃ request decisive, Decides arguments decisive ∧ Asks request decisive

/-- The first argument that is no verbose flag is refused. -/
def IsTurnedDown (arguments : List Argument) : Prop :=
  ∃ decisive, Decides arguments decisive ∧ (HasValue decisive ∨ IsUnreadable decisive)

section

variable {arguments before rest : List Argument} {decisive other : Argument}

theorem SplitsInto.decides_iff (h : SplitsInto arguments before rest) :
    Decides arguments decisive ↔ rest.head? = some decisive := by
  constructor
  · rintro ⟨flags, others, hflags⟩
    -- a command line splits in one way only
    obtain ⟨_, _, _, hunique⟩ := exists_splitsInto arguments
    have hrest : rest = decisive :: others :=
      (hunique before rest h).2.trans (hunique flags _ hflags).2.symm
    rw [hrest]
    rfl
  · intro hhead
    cases rest with
    | nil => cases hhead
    | cons first others =>
      have hfirst : first = decisive := Option.some.inj hhead
      exact ⟨before, others, hfirst ▸ h⟩

theorem Decides.unique (h : Decides arguments decisive) (hother : Decides arguments other) :
    other = decisive := by
  obtain ⟨before, rest, hsplit⟩ := h
  have hhead := hsplit.decides_iff.mp hother
  exact (Option.some.inj hhead).symm

theorem HasValue.or_isUnreadable_iff :
    HasValue decisive ∨ IsUnreadable decisive ↔ ∃ refusal, IsRefused refusal decisive := by
  constructor
  · rintro (hvalue | ⟨name, hname⟩)
    · obtain ⟨flag, value, hrefused⟩ := hvalue.refused
      exact ⟨_, hrefused⟩
    · exact ⟨_, hname⟩
  · rintro ⟨refusal, hrefused⟩
    exact hrefused.hasValue_or

/-! ## The three ways of a command line -/

theorem not_requests_of_isTurnedDown (h : IsTurnedDown arguments) : ¬ Requests arguments := by
  obtain ⟨decisive, hdecides, hdown⟩ := h
  obtain ⟨refusal, hrefused⟩ := HasValue.or_isUnreadable_iff.mp hdown
  rintro ⟨request, other, hother, hasks⟩
  rw [hdecides.unique hother] at hasks
  exact hrefused.not_asks request hasks

theorem Demonstrates.not_requests (h : Demonstrates arguments) : ¬ Requests arguments := by
  rintro ⟨request, decisive, hdecides, hasks⟩
  rcases h decisive hdecides with hseparator | hpositional
  · rw [hseparator] at hasks
    exact separator_alone.1 request hasks
  · exact hpositional.not_asks request hasks

theorem Demonstrates.not_isTurnedDown (h : Demonstrates arguments) : ¬ IsTurnedDown arguments := by
  rintro ⟨decisive, hdecides, hdown⟩
  obtain ⟨refusal, hrefused⟩ := HasValue.or_isUnreadable_iff.mp hdown
  rcases h decisive hdecides with hseparator | hpositional
  · rw [hseparator] at hrefused
    exact separator_alone.2 refusal hrefused
  · exact hpositional.not_refused refusal hrefused

/-- **A command line requests something, or is turned down, or comes to a demonstration**, at the
verbosity of the flags in front. -/
theorem run_cases (h : SplitsInto arguments before rest) (stdout : Stdout) :
    (Requests arguments ∧ ∃ request : Request,
        run arguments stdout = ⟨0, stdout.deliver request.text, [], ""⟩)
      ∨ (IsTurnedDown arguments ∧ ∃ complaint, run arguments stdout = ⟨2, "", [], complaint⟩)
      ∨ (Demonstrates arguments ∧ ∃ ignored,
          Invocation.ofArguments arguments = .demo (verbosity before) ignored) := by
  have hsettles := settles h.verbose
  have hparts := h.parts
  subst hparts
  cases rest with
  | nil =>
    refine Or.inr (Or.inr ⟨fun decisive hdecides => ?_, [], ?_⟩)
    · cases h.decides_iff.mp hdecides
    · rw [List.append_nil]
      exact hsettles.alone
  | cons decisive rest =>
    have hdecides : Decides (before ++ decisive :: rest) decisive := h.decides_iff.mpr rfl
    rcases classes decisive with hverbose | ⟨request, hasks⟩ | ⟨refusal, hrefused⟩ | hseparator
      | hpositional
    · exact absurd hverbose (h.decisive decisive rfl)
    · exact Or.inl ⟨⟨request, decisive, hdecides, hasks⟩, request,
        hsettles.asked request decisive hasks rest stdout⟩
    · exact Or.inr (Or.inl ⟨⟨decisive, hdecides, hrefused.hasValue_or⟩, _,
        hsettles.refused refusal decisive hrefused rest stdout⟩)
    · refine Or.inr (Or.inr ⟨fun other hother => Or.inl ?_, rest, ?_⟩)
      · rw [hdecides.unique hother, hseparator]
      · rw [hseparator]
        exact hsettles.separated rest
    · refine Or.inr (Or.inr ⟨fun other hother => Or.inr ?_, decisive :: rest, ?_⟩)
      · rw [hdecides.unique hother]
        exact hpositional
      · exact hsettles.positional decisive hpositional rest

end

/-! ## The exit code -/

/-- What the exit code of a command line on this standard output tells. -/
structure CodeTells (arguments : List Argument) (stdout : Stdout) (code : Nat) : Prop where
  two : code = 2 ↔ IsTurnedDown arguments
  /-- Otherwise it is 0 for a request or if standard output works, -/
  zero : code = 0 ↔ code ≠ 2 ∧ (Requests arguments ∨ stdout = .captured)
  /-- and 1 for a demonstration on a standard output that fails. -/
  one : code = 1 ↔ Demonstrates arguments ∧ ∃ fault, stdout = .failing fault

theorem codeTells_run (arguments : List Argument) (stdout : Stdout) :
    CodeTells arguments stdout (run arguments stdout).code := by
  obtain ⟨before, rest, hsplit, -⟩ := exists_splitsInto arguments
  rcases run_cases hsplit stdout with ⟨hrequests, request, hrun⟩ | ⟨hdown, complaint, hrun⟩
    | ⟨hdemo, ignored, hinvocation⟩
  · have hdown : ¬ IsTurnedDown arguments := fun h => not_requests_of_isTurnedDown h hrequests
    have hdemo : ¬ Demonstrates arguments := fun h => h.not_requests hrequests
    rw [hrun]
    exact {
      two := iff_of_false (show ¬ 0 = 2 by decide) hdown
      zero := iff_of_true rfl ⟨show 0 ≠ 2 by decide, Or.inl hrequests⟩
      one := iff_of_false (show ¬ 0 = 1 by decide) (fun h => hdemo h.1) }
  · have hdemo : ¬ Demonstrates arguments := fun h => h.not_isTurnedDown hdown
    rw [hrun]
    exact {
      two := iff_of_true rfl hdown
      zero := iff_of_false (show ¬ 2 = 0 by decide) (fun h => h.1 rfl)
      one := iff_of_false (show ¬ 2 = 1 by decide) (fun h => hdemo h.1) }
  · have hdown := hdemo.not_isTurnedDown
    have hrequests := hdemo.not_requests
    have hrun : (run arguments stdout).code = codeOf stdout.flush := by
      rw [run, hinvocation]
      dsimp only
      rw [runDemo_eq]
    rw [hrun]
    cases stdout with
    | captured =>
      have hworks : ¬ (Demonstrates arguments ∧ ∃ fault, Stdout.captured = .failing fault) := by
        rintro ⟨-, fault, hfails⟩
        cases hfails
      exact {
        two := iff_of_false (show ¬ 0 = 2 by decide) hdown
        zero := iff_of_true rfl ⟨show 0 ≠ 2 by decide, Or.inr rfl⟩
        one := iff_of_false (show ¬ 0 = 1 by decide) hworks }
    | failing fault =>
      refine {
        two := iff_of_false (show ¬ 1 = 2 by decide) hdown
        zero := iff_of_false (show ¬ 1 = 0 by decide) ?_
        one := iff_of_true rfl ⟨hdemo, fault, rfl⟩ }
      rintro ⟨-, hrequests' | hcaptured⟩
      · exact hrequests hrequests'
      · cases hcaptured

/-! ## The log -/

/-- The line that says that the output is delivered. -/
def doneLine : String := " INFO clist: done"

/-- What is said when the flush meets this fault. -/
def flushReport (fault : SystemFault) : String :=
  "Error: failed to flush stdout\n\nCaused by:\n    " ++ fault.message ++ "\n"

theorem complaintOf_flush (fault : SystemFault) :
    complaintOf (Stdout.failing fault).flush = flushReport fault := by
  cases fault <;> decide +kernel

theorem log_append (level : Level) (first second : List Event) :
    level.log (first ++ second) = level.log first ++ level.log second := by
  rw [Level.log, Level.keep_append, List.map_append]
  rfl

/-- The end of a good run is logged from the first verbose flag on. -/
theorem log_done (count : Nat) :
    (Level.ofVerbosity count).log [.done] = if 1 ≤ count then [doneLine] else [] := by
  have hrank : Level.info.rank ≤ 2 + min 3 count ↔ 1 ≤ count := by
    rw [Level.rank]
    omega
  rw [Level.log_ofVerbosity]
  exact if_congr hrank rfl rfl

/-- A line begins like the name of its level. -/
theorem head?_line (event : Event) :
    event.line.toList.head? = event.level.label.toList.head? := by
  cases hlabel : event.level.label.toList with
  | nil => cases hlevel : event.level <;> rw [hlevel] at hlabel <;> cases hlabel
  | cons c cs => exact head?_toList_append (head?_toList_append (by rw [hlabel]; rfl) _) _

/-- No other event has that line. -/
theorem eq_done_of_line {event : Event} (h : event.line = doneLine) : event = .done := by
  have hhead : event.level.label.toList.head? = some ' ' := by
    rw [← head?_line, h]
    decide
  cases event with
  | done => rfl
  | building _ | traversing _ | ignoring _ =>
    exact absurd hhead (show ¬ Level.debug.label.toList.head? = some ' ' by decide)
  | prepended _ _ | visiting _ =>
    exact absurd hhead (show ¬ Level.trace.label.toList.head? = some ' ' by decide)

theorem doneLine_mem_log {level : Level} {events : List Event} (h : doneLine ∈ level.log events) :
    Event.done ∈ events := by
  obtain ⟨event, hkept, hline⟩ := List.mem_map.mp h
  rw [eq_done_of_line hline] at hkept
  exact (List.mem_filter.mp hkept).1

/-- The events up to the flush. -/
def upToFlush (ignored : List Argument) : List Event :=
  heralds ignored ++ (Demo.built ++ Demo.walked)

theorem done_not_mem_upToFlush (ignored : List Argument) : Event.done ∉ upToFlush ignored := by
  rw [upToFlush, heralds]
  split <;> simp [Demo.built, Demo.walked]

/-- The run on a failing standard output against the run on a working one. -/
structure BreaksOff (level : Nat) (ignored : List Argument) (fault : SystemFault)
    (working broken : Outcome) : Prop where
  /-- All events of the demonstration are logged, each visit among them, -/
  log_eq : broken.log = (Level.ofVerbosity level).log (upToFlush ignored)
  /-- and nothing but the last line is missing. -/
  working_log_eq : working.log = broken.log ++ if 1 ≤ level then [doneLine] else []
  /-- The report follows on standard error where that line would be. -/
  stderr_eq : ∃ text, working.stderr = text ++ (if 1 ≤ level then doneLine ++ "\n" else "")
    ∧ broken.stderr = text ++ flushReport fault

theorem breaksOff_runDemo (level : Nat) (ignored : List Argument) (fault : SystemFault) :
    BreaksOff level ignored fault (runDemo level ignored .captured)
      (runDemo level ignored (.failing fault)) := by
  have hbroken : (runDemo level ignored (.failing fault)).log
      = (Level.ofVerbosity level).log (upToFlush ignored) := by
    rw [runDemo_eq]
    exact congrArg (Level.ofVerbosity level).log (List.append_nil (upToFlush ignored))
  have hworking : (runDemo level ignored .captured).log
      = (runDemo level ignored (.failing fault)).log ++ if 1 ≤ level then [doneLine] else [] := by
    rw [hbroken, ← log_done, ← log_append, runDemo_eq]
    rfl
  refine ⟨hbroken, hworking,
    String.join ((runDemo level ignored (.failing fault)).log.map (· ++ "\n")), ?_, ?_⟩
  · have hcomplaint : (runDemo level ignored .captured).complaint = "" := by rw [runDemo_eq]; rfl
    rw [Outcome.stderr, hcomplaint, hworking, List.map_append, String.join_append]
    by_cases hlevel : 1 ≤ level
    · rw [if_pos hlevel, if_pos hlevel]
      simp [String.join]
    · rw [if_neg hlevel, if_neg hlevel]
      simp [String.join]
  · have hcomplaint : (runDemo level ignored (.failing fault)).complaint = flushReport fault := by
      rw [runDemo_eq]
      exact complaintOf_flush fault
    rw [Outcome.stderr, hcomplaint]

/-- The log of a demonstration has the line if the flush was good and there was a verbose flag. -/
theorem doneLine_mem_runDemo (level : Nat) (ignored : List Argument) (stdout : Stdout) :
    doneLine ∈ (runDemo level ignored stdout).log ↔ 1 ≤ level ∧ stdout = .captured := by
  have hearlier : doneLine ∉ (Level.ofVerbosity level).log (upToFlush ignored) :=
    fun h => done_not_mem_upToFlush ignored (doneLine_mem_log h)
  cases stdout with
  | failing fault =>
    rw [(breaksOff_runDemo level ignored fault).log_eq]
    exact iff_of_false hearlier (fun h => by cases h.2)
  | captured =>
    -- any fault will do to name the lines before the last
    have hbreaks := breaksOff_runDemo level ignored .noSpace
    rw [hbreaks.working_log_eq, hbreaks.log_eq, List.mem_append]
    by_cases hlevel : 1 ≤ level
    · rw [if_pos hlevel]
      exact iff_of_true (Or.inr (List.mem_singleton.mpr rfl)) ⟨hlevel, rfl⟩
    · rw [if_neg hlevel]
      refine iff_of_false (fun h => ?_) (fun h => hlevel h.1)
      rcases h with hlogged | hnone
      · exact hearlier hlogged
      · cases hnone

/-- **The line is logged exactly if the text of the demonstration was delivered**, whatever the
command line, once there is a verbose flag in front. -/
theorem doneLine_mem_run {arguments before rest : List Argument}
    (h : SplitsInto arguments before rest) (stdout : Stdout) :
    doneLine ∈ (run arguments stdout).log
      ↔ 1 ≤ verbosity before ∧ (run arguments stdout).stdout = "Created linked list 1 2 3 4 5" := by
  rcases run_cases h stdout with ⟨-, request, hrun⟩ | ⟨-, complaint, hrun⟩
    | ⟨-, ignored, hinvocation⟩
  · -- the text of a request is another one, and nothing is logged
    rw [hrun]
    refine iff_of_false List.not_mem_nil (fun hdelivered => ?_)
    cases stdout with
    | captured => cases request <;> exact absurd hdelivered.2 (by decide)
    | failing fault => exact absurd hdelivered.2 (show ¬ "" = _ by decide)
  · rw [hrun]
    exact iff_of_false List.not_mem_nil
      (fun hdelivered => absurd hdelivered.2 (show ¬ "" = _ by decide))
  · have hrun : run arguments stdout = runDemo (verbosity before) ignored stdout := by
      rw [run, hinvocation]
    rw [hrun, doneLine_mem_runDemo, runDemo_eq]
    cases stdout with
    | captured => exact and_congr_right (fun _ => iff_of_true rfl rfl)
    | failing fault =>
      refine and_congr_right (fun _ => iff_of_false (fun h => by cases h) (fun hdelivered => ?_))
      exact absurd hdelivered (show ¬ "" = _ by decide)

/-! ## The command line as a whole -/

/--
**What the exit code and the log of a command line tell, on every standard output.**

The exit code is 2 exactly if the command line is turned down, for a value or for an unreadable
name. With the verbose flags in front, a demonstration on a failing standard output breaks off at
the flush, and the last line of the log says that the text is delivered.
-/
theorem exit_status (arguments : List Argument) (stdout : Stdout) :
    CodeTells arguments stdout (run arguments stdout).code
      ∧ ∃ before rest, SplitsInto arguments before rest
        ∧ (doneLine ∈ (run arguments stdout).log ↔ 1 ≤ verbosity before
            ∧ (run arguments stdout).stdout = "Created linked list 1 2 3 4 5")
        ∧ (Demonstrates arguments → ∃ ignored,
            Invocation.ofArguments arguments = .demo (verbosity before) ignored
              ∧ ∀ fault, BreaksOff (verbosity before) ignored fault (run arguments .captured)
                  (run arguments (.failing fault))) := by
  obtain ⟨before, rest, hsplit, -⟩ := exists_splitsInto arguments
  refine ⟨codeTells_run arguments stdout, before, rest, hsplit, doneLine_mem_run hsplit stdout,
    fun hdemo => ?_⟩
  rcases run_cases hsplit stdout with ⟨hrequests, -⟩ | ⟨hdown, -⟩ | ⟨-, ignored, hinvocation⟩
  · exact absurd hrequests hdemo.not_requests
  · exact absurd hdown hdemo.not_isTurnedDown
  · refine ⟨ignored, hinvocation, fun fault => ?_⟩
    have hrun : ∀ output, run arguments output = runDemo (verbosity before) ignored output := by
      intro output
      rw [run, hinvocation]
    rw [hrun, hrun]
    exact breaksOff_runDemo (verbosity before) ignored fault

/-- One verbose flag and an argument to ignore, on a device that is full. -/
theorem exit_status_full_device :
    let arguments : List Argument := ["-v", "x"].map fun argument => argument.toList.map byte
    Demonstrates arguments ∧ (run arguments (.failing .noSpace)).code = 1
      ∧ ∃ text, (run arguments .captured).stderr = text ++ " INFO clist: done\n"
        ∧ (run arguments (.failing .noSpace)).stderr = text
          ++ "Error: failed to flush stdout\n\nCaused by:\n    No space left on device (os error 28)\n" := by
  intro arguments
  have hflag : IsVerbose ("-v".toList.map byte) := Or.inr ⟨0, by decide⟩
  have hword : IsPositional ("x".toList.map byte) := read_eq_positional_iff.mp (by decide)
  have hsplit : SplitsInto arguments ["-v".toList.map byte] ["x".toList.map byte] := by
    refine ⟨rfl, fun argument hmem => ?_, fun argument hmem => ?_⟩
    · exact List.mem_singleton.mp hmem ▸ hflag
    · exact Option.some.inj hmem ▸ hword.not_verbose
  have hdemo : Demonstrates arguments := by
    intro decisive hdecides
    exact Or.inr (Option.some.inj (hsplit.decides_iff.mp hdecides) ▸ hword)
  obtain ⟨htells, before, rest, hother, -, hlog⟩ := exit_status arguments (.failing .noSpace)
  obtain ⟨ignored, -, hbreaks⟩ := hlog hdemo
  obtain ⟨text, hworking, hbroken⟩ := (hbreaks .noSpace).stderr_eq
  obtain ⟨_, _, _, hunique⟩ := exists_splitsInto arguments
  have hbefore : before = ["-v".toList.map byte] :=
    (hunique before rest hother).1.trans (hunique _ _ hsplit).1.symm
  rw [hbefore, if_pos (show 1 ≤ verbosity ["-v".toList.map byte] by decide)] at hworking
  exact ⟨hdemo, htells.one.mpr ⟨hdemo, .noSpace, rfl⟩, text, hworking, hbroken⟩

/-- An unreadable name is no known flag with a value, and the exit code is 2. -/
theorem code_two_of_unreadable_name :
    let arguments : List Argument := [[byte '-', byte '-', 0xFF]]
    (run arguments .captured).code = 2
      ∧ ¬ ∃ decisive, Decides arguments decisive ∧ HasValue decisive := by
  intro arguments
  have hread : read [byte '-', byte '-', 0xFF] = .refused (.unreadableName [0xFF]) := by decide
  refine ⟨by rw [run, Invocation.ofArguments, Invocation.settle, hread], ?_⟩
  rintro ⟨decisive, ⟨before, rest, hparts, -, -⟩, hvalue⟩
  -- the one argument there is
  have hdecisive : decisive = [byte '-', byte '-', 0xFF] := by
    have hmem : decisive ∈ arguments := by rw [hparts]; simp
    exact List.mem_singleton.mp hmem
  obtain ⟨flag, value, hrefused⟩ := hvalue.refused
  rw [hdecisive] at hrefused
  exact absurd (hread.symm.trans hrefused.read) (by simp)

end PrependList.Command
