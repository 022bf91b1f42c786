import PrependList.Proofs.Command.ExitStatus
import PrependList.Proofs.Log.Lines

/-!
# The announcement of ignored arguments

A demonstration that ignores arguments names them in the first line of its log, if the log is
detailed enough. The arguments are bytes from anywhere: they may hold quotes and commas, ends of lines,
escapes, or a whole announcement. None of that comes through. The announcement is one plain line, no
other line of a log looks like one, and the arguments are read back from it byte for byte
(`announced_as_given`). Two command lines with different arguments to ignore never log the same.
-/

namespace PrependList.Command

/-- The line that names the arguments to ignore. -/
def announcement (ignored : List Argument) : String := (Event.ignoring ignored).line

/-- The lines on standard error. What is behind the last end of a line counts as one more. -/
def Outcome.lines (outcome : Outcome) : List (List Char) := outcome.stderr.toList.splitOn '\n'

theorem announced?_announcement (ignored : List Argument) :
    Event.announced? (announcement ignored).toList = some ignored :=
  Event.announced?_line (.ignoring ignored)

theorem announcement_injective {ignored others : List Argument}
    (h : announcement others = announcement ignored) : others = ignored := by
  have hread := announced?_announcement others
  rw [h, announced?_announcement] at hread
  exact (Option.some.inj hread).symm

theorem isControl_of_mem_announcement (ignored : List Argument) :
    ∀ c ∈ (announcement ignored).toList, isControl c = false :=
  fun c hc => isControl_of_isPlain (Event.isPlainText_line (.ignoring ignored) c hc)

/-! ## The log of a demonstration -/

/-- What a log announces is what its events name. -/
theorem filterMap_log (level : Level) (events : List Event) :
    ((level.log events).map String.toList).filterMap Event.announced?
      = (level.keep events).filterMap Event.ignored? := by
  rw [Level.log, List.map_map, List.filterMap_map]
  exact List.filterMap_congr fun event _ => event.announced?_line

theorem log_heralds (level : Nat) (ignored : List Argument) :
    (Level.ofVerbosity level).log (heralds ignored)
      = if ignored ≠ [] ∧ 2 ≤ level then [announcement ignored] else [] := by
  rw [heralds]
  by_cases hignored : ignored = []
  · rw [if_pos hignored, if_neg (fun h => h.1 hignored)]
    rfl
  · rw [if_neg hignored, Level.log_ofVerbosity]
    have hdetailed : Level.debug.rank ≤ 2 + min 3 level ↔ ignored ≠ [] ∧ 2 ≤ level := by
      rw [and_iff_right hignored, Level.rank]
      omega
    exact if_congr hdetailed rfl rfl

/-- The events that come after the announcement. -/
def unheralded (stdout : Stdout) : List Event := Demo.built ++ Demo.walked ++ closing stdout

/-- None of them names arguments. -/
theorem ignored?_of_mem_unheralded {stdout : Stdout} {event : Event}
    (h : event ∈ unheralded stdout) : event.ignored? = none := by
  have hnone : (unheralded stdout).filterMap Event.ignored? = [] := by
    cases stdout <;> rfl
  exact List.filterMap_eq_nil_iff.mp hnone event h

theorem log_runDemo (level : Nat) (ignored : List Argument) (stdout : Stdout) :
    (runDemo level ignored stdout).log
      = (if ignored ≠ [] ∧ 2 ≤ level then [announcement ignored] else [])
          ++ (Level.ofVerbosity level).log (unheralded stdout) := by
  rw [runDemo_eq, ← log_heralds, ← log_append, unheralded]
  exact congrArg (Level.log _) (List.append_assoc (heralds ignored) _ _)

theorem filterMap_log_unheralded (level : Level) (stdout : Stdout) :
    ((level.log (unheralded stdout)).map String.toList).filterMap Event.announced? = [] := by
  rw [filterMap_log, List.filterMap_eq_nil_iff]
  exact fun event hevent => ignored?_of_mem_unheralded (List.mem_filter.mp hevent).1

/-- **What the log of a demonstration announces**: the arguments that it ignores, once. -/
theorem filterMap_log_runDemo (level : Nat) (ignored : List Argument) (stdout : Stdout) :
    ((runDemo level ignored stdout).log.map String.toList).filterMap Event.announced?
      = if ignored ≠ [] ∧ 2 ≤ level then [ignored] else [] := by
  rw [log_runDemo, List.map_append, List.filterMap_append, filterMap_log_unheralded,
    List.append_nil]
  split
  · rw [List.map_singleton, List.filterMap_cons, announced?_announcement]
    rfl
  · rfl

/-! ## Standard error -/

theorem newline_not_mem_runDemo (level : Nat) (ignored : List Argument) (stdout : Stdout) :
    ∀ line ∈ (runDemo level ignored stdout).log, '\n' ∉ line.toList := by
  rw [runDemo_eq]
  intro line hline
  obtain ⟨event, -, rfl⟩ := List.mem_map.mp hline
  exact event.newline_not_mem_line

theorem lines_runDemo (level : Nat) (ignored : List Argument) (stdout : Stdout) :
    (runDemo level ignored stdout).lines
      = (runDemo level ignored stdout).log.map String.toList
          ++ (complaintOf stdout.flush).toList.splitOn '\n' := by
  rw [Outcome.lines, Outcome.stderr,
    splitOn_join_lines _ _ (newline_not_mem_runDemo level ignored stdout)]
  rw [runDemo_eq]

/-- What is said behind the log announces nothing. -/
theorem filterMap_complaint (stdout : Stdout) :
    ((complaintOf stdout.flush).toList.splitOn '\n').filterMap Event.announced? = [] := by
  cases stdout with
  | captured => rfl
  | failing fault =>
    rw [complaintOf_flush]
    cases fault <;> decide +kernel

/-- What a run that ignores these arguments tells about them, at this verbosity. -/
structure Announces (level : Nat) (ignored : List Argument) (outcome : Outcome) : Prop where
  /-- They are announced exactly if there are any and the log is detailed enough, and no others are, -/
  logged : ∀ extras, announcement extras ∈ outcome.log
    ↔ extras = ignored ∧ ignored ≠ [] ∧ 2 ≤ level
  /-- in the first line of the log and of standard error. -/
  first : announcement ignored ∈ outcome.log →
    outcome.log.head? = some (announcement ignored)
      ∧ outcome.lines.head? = some (announcement ignored).toList
  /-- Whoever reads standard error line by line for announcements finds them, once, and no others. -/
  found : outcome.lines.filterMap Event.announced?
    = if ignored ≠ [] ∧ 2 ≤ level then [ignored] else []

theorem announces_runDemo (level : Nat) (ignored : List Argument) (stdout : Stdout) :
    Announces level ignored (runDemo level ignored stdout) := by
  have hlogged : ∀ extras, announcement extras ∈ (runDemo level ignored stdout).log
      ↔ extras = ignored ∧ ignored ≠ [] ∧ 2 ≤ level := by
    intro extras
    constructor
    · intro hmem
      have hfound : extras
          ∈ ((runDemo level ignored stdout).log.map String.toList).filterMap Event.announced? :=
        List.mem_filterMap.mpr ⟨_, List.mem_map_of_mem hmem, announced?_announcement extras⟩
      rw [filterMap_log_runDemo] at hfound
      split at hfound
      · rename_i hdetailed
        exact ⟨List.mem_singleton.mp hfound, hdetailed⟩
      · cases hfound
    · rintro ⟨rfl, hdetailed⟩
      rw [log_runDemo, if_pos hdetailed]
      exact List.mem_cons_self
  refine ⟨hlogged, fun hmem => ?_, ?_⟩
  · have hlog := log_runDemo level ignored stdout
    rw [if_pos ((hlogged ignored).mp hmem).2] at hlog
    rw [lines_runDemo, hlog]
    exact ⟨rfl, rfl⟩
  · rw [lines_runDemo, List.filterMap_append, filterMap_log_runDemo, filterMap_complaint,
      List.append_nil]

/-- A command line that comes to something else logs nothing. -/
theorem log_run_eq_nil {arguments : List Argument} (stdout : Stdout)
    (h : ∀ level ignored, Invocation.ofArguments arguments ≠ .demo level ignored) :
    (run arguments stdout).log = [] := by
  rw [run]
  cases hinvocation : Invocation.ofArguments arguments with
  | request request => rfl
  | refused refusal repeated => rfl
  | demo level ignored => exact absurd hinvocation (h level ignored)

/--
**The arguments that are ignored are announced as they were given.**

If a command line comes to a demonstration, its log names the arguments to ignore exactly if there are
any and the verbosity is two at least, in its first line. If it comes to anything else, nothing is
logged. And whatever the arguments are, the line has no control characters, they can be read from it,
and no other list of arguments has the same line.
-/
theorem announced_as_given (arguments : List Argument) (stdout : Stdout) :
    (∀ level ignored, Invocation.ofArguments arguments = .demo level ignored →
        Announces level ignored (run arguments stdout))
      ∧ ((∀ level ignored, Invocation.ofArguments arguments ≠ .demo level ignored) →
        (run arguments stdout).log = [])
      ∧ ∀ ignored : List Argument,
        (∀ c ∈ (announcement ignored).toList, isControl c = false)
          ∧ Event.announced? (announcement ignored).toList = some ignored
          ∧ ∀ others, announcement others = announcement ignored → others = ignored := by
  refine ⟨fun level ignored h => ?_, log_run_eq_nil stdout, fun ignored => ?_⟩
  · have hrun : run arguments stdout = runDemo level ignored stdout := by rw [run, h]
    rw [hrun]
    exact announces_runDemo level ignored stdout
  · exact ⟨isControl_of_mem_announcement ignored, announced?_announcement ignored,
      fun _ => announcement_injective⟩

/-- What looks like two arguments is one, an invalid byte behind a backslash and the text that is
written for one are told apart, and an end of line stays within its quotes. -/
theorem announced_as_given_hostile :
    let ignored : List Argument :=
      ["a\", \"b".toList.map byte, [byte '\\', 0xFF], "\\xFF".toList.map byte, [10, 0x1B], []]
    let outcome := run (["-vv", "--"].map (fun argument => argument.toList.map byte) ++ ignored)
      (.failing .brokenPipe)
    outcome.log.head? = some ("DEBUG clist: ignoring extra arguments ignored="
        ++ "[\"a\\\", \\\"b\", \"\\\\\\xFF\", \"\\\\xFF\", \"\\n\\u\x7b1b\x7d\", \"\"]")
      ∧ outcome.lines.filterMap Event.announced? = [ignored] := by
  intro ignored outcome
  have hdemo : Invocation.ofArguments
      (["-vv", "--"].map (fun argument => argument.toList.map byte) ++ ignored)
        = .demo 2 ignored := by decide
  have hannounces := (announced_as_given _ (.failing .brokenPipe)).1 2 ignored hdemo
  have hmem : announcement ignored ∈ outcome.log :=
    (hannounces.logged ignored).mpr ⟨rfl, by decide, by decide⟩
  refine ⟨?_, ?_⟩
  · rw [(hannounces.first hmem).1]
    decide +kernel
  · rw [hannounces.found]
    decide

end PrependList.Command
