import Mathlib.Tactic.TFAE
import PrependList.Demo.Report

/-!
# Reports lose nothing

A failure is reported as a context and the message of its cause, in several layouts. The message is
any text, with as many lines as it likes, and may look like a heading or like another report. It
never gets in the way. On one line the context ends at the first colon, because no context has one.
In the long form every line of the message has a margin, so cutting at the ends of lines and taking
the margins off gives the message back, its empty lines and its own blanks included.

So the layouts agree on which failures are alike (`renderings_agree`). Nothing is assumed about the
cause, nor about the run that has failed.
-/

namespace PrependList

/-- What stands in front of an indented line. -/
def margin : List Char := [' ', ' ', ' ', ' ']

/-- The lines one below the other. -/
def stacked (lines : List (List Char)) : List Char := ['\n'].intercalate lines

theorem stacked_cons_cons (line next : List Char) (lines : List (List Char)) :
    stacked (line :: next :: lines) = line ++ '\n' :: stacked (next :: lines) := by
  simp [stacked, List.intercalate_cons_cons]

/-- Every text is made of lines, though the only one may be empty. -/
theorem exists_lines (text : List Char) :
    ∃ lines, lines ≠ [] ∧ (∀ line ∈ lines, '\n' ∉ line) ∧ stacked lines = text := by
  induction text with
  | nil => exact ⟨[[]], by simp, by simp, rfl⟩
  | cons c text ih =>
    obtain ⟨lines, hne, hlines, rfl⟩ := ih
    obtain ⟨line, rest, rfl⟩ := List.exists_cons_of_ne_nil hne
    by_cases hc : c = '\n'
    · -- an end of line leaves an empty line in front of the others
      refine ⟨[] :: line :: rest, by simp, ?_, ?_⟩
      · simpa using hlines
      · rw [stacked_cons_cons, hc, List.nil_append]
    · refine ⟨(c :: line) :: rest, by simp, ?_, ?_⟩
      · simpa [Ne.symm hc] using hlines
      · cases rest with
        | nil => simp [stacked]
        | cons next rest => rw [stacked_cons_cons, stacked_cons_cons, List.cons_append]

/-- A single line gets one margin. -/
theorem indented_line {line : List Char} (h : '\n' ∉ line) : indented line = margin ++ line := by
  have hsame : (line.flatMap fun c => if c = '\n' then '\n' :: margin else [c]) = line := by
    induction line with
    | nil => rfl
    | cons c line ih =>
      rw [List.mem_cons, not_or] at h
      rw [List.flatMap_cons, if_neg (Ne.symm h.1), ih h.2]
      rfl
  rw [indented]
  exact congrArg (margin ++ ·) hsame

theorem indented_append_newline (before after : List Char) :
    indented (before ++ '\n' :: after) = indented before ++ '\n' :: indented after := by
  simp [indented]

/-- **Indenting puts the margin in front of every line.** -/
theorem indented_stacked {lines : List (List Char)} (hne : lines ≠ [])
    (h : ∀ line ∈ lines, '\n' ∉ line) :
    indented (stacked lines) = stacked (lines.map (margin ++ ·)) := by
  induction lines with
  | nil => exact absurd rfl hne
  | cons line lines ih =>
    have hline := indented_line (h line List.mem_cons_self)
    cases lines with
    | nil => simpa [stacked] using hline
    | cons next lines =>
      have hrest := ih (List.cons_ne_nil _ _)
        (fun other hother => h other (List.mem_cons_of_mem _ hother))
      rw [stacked_cons_cons, indented_append_newline, hline, hrest, List.map_cons, List.map_cons,
        List.map_cons, stacked_cons_cons]

namespace Failure

/-- The context and the cause's message, from the text on one line. -/
def readSummary (cs : List Char) : List Char × List Char :=
  (cs.takeWhile (· != ':'), (cs.dropWhile (· != ':')).drop 2)

/-- The context and the cause's message, from the text on several lines: the first line, and what is
below the heading without its margins. -/
def readReport (cs : List Char) : Option (List Char × List Char) :=
  match cs.splitOn '\n' with
  | context :: [] :: heading :: lines =>
    if heading = "Caused by:".toList ∧ ∀ line ∈ lines, margin <+: line then
      some (context, stacked (lines.map (List.drop margin.length)))
    else none
  | _ => none

theorem colon_not_mem_message (failure : Failure) : ':' ∉ failure.message.toList := by
  unfold message
  cases failure.stage <;> decide

theorem newline_not_mem_message (failure : Failure) : '\n' ∉ failure.message.toList := by
  unfold message
  cases failure.stage <;> decide

theorem readSummary_summary (failure : Failure) :
    readSummary failure.summary.toList
      = (failure.message.toList, failure.cause.message.toList) := by
  have hcontext : ∀ c ∈ failure.message.toList, (c != ':') = true := by
    intro c hc
    rw [bne_iff_ne]
    rintro rfl
    exact failure.colon_not_mem_message hc
  have htext : failure.summary.toList
      = failure.message.toList ++ ':' :: ' ' :: failure.cause.message.toList := by
    simp [summary]
  rw [htext, readSummary, List.takeWhile_append_of_pos hcontext,
    List.dropWhile_append_of_pos hcontext]
  simp

/-- The lines of a report: the context, the heading, and the lines of the message with margins. -/
theorem exists_lines_report (failure : Failure) :
    ∃ lines, stacked lines = failure.cause.message.toList
      ∧ failure.report.toList.splitOn '\n'
        = failure.message.toList :: [] :: "Caused by:".toList :: lines.map (margin ++ ·) := by
  obtain ⟨lines, hne, hlines, htext⟩ := exists_lines failure.cause.message.toList
  have hreport : failure.report.toList
      = failure.message.toList ++ '\n' :: ([] ++ '\n' :: ("Caused by:".toList
        ++ '\n' :: stacked (lines.map (margin ++ ·)))) := by
    simp [report, ← htext, indented_stacked hne hlines]
  have hbelow : (stacked (lines.map (margin ++ ·))).splitOn '\n' = lines.map (margin ++ ·) := by
    refine List.splitOn_intercalate '\n' (fun line hline => ?_) (by simpa using hne)
    obtain ⟨line, hmem, rfl⟩ := List.mem_map.mp hline
    simpa [margin] using hlines line hmem
  refine ⟨lines, htext, ?_⟩
  rw [hreport, List.splitOn_append_cons_self_of_not_mem failure.newline_not_mem_message,
    List.splitOn_append_cons_self_of_not_mem List.not_mem_nil,
    List.splitOn_append_cons_self_of_not_mem (by decide), hbelow]

theorem readReport_report (failure : Failure) :
    readReport failure.report.toList
      = some (failure.message.toList, failure.cause.message.toList) := by
  obtain ⟨lines, htext, hlines⟩ := failure.exists_lines_report
  have hmargin : ∀ line ∈ lines.map (margin ++ ·), margin <+: line := by
    intro line hline
    obtain ⟨line, -, rfl⟩ := List.mem_map.mp hline
    exact List.prefix_append margin line
  have hoff : (lines.map (margin ++ ·)).map (List.drop margin.length) = lines := by
    simp [Function.comp_def]
  simp only [readReport, hlines]
  rw [if_pos ⟨trivial, hmargin⟩, hoff, htext]

theorem chain_eq_iff {failure other : Failure} :
    failure.chain = other.chain
      ↔ failure.message = other.message ∧ failure.cause.message = other.cause.message := by
  simp [chain]

theorem chain_eq_of_toList {failure other : Failure}
    (h : (failure.message.toList, failure.cause.message.toList)
      = (other.message.toList, other.cause.message.toList)) : failure.chain = other.chain := by
  obtain ⟨hcontext, hcause⟩ := Prod.mk.inj h
  exact chain_eq_iff.mpr ⟨String.toList_inj.mp hcontext, String.toList_inj.mp hcause⟩

/--
**The layouts of a failure say the same.**

Two failures have the same chain of messages exactly if they have the same text on one line, exactly
if they have the same report. And a report can be read: its first line is the context, and what is
below the heading, without the margins, is the cause's message. The two may come from any two runs,
with any writers, and their causes may say anything.
-/
theorem renderings_agree (failure other : Failure) :
    [failure.chain = other.chain, failure.summary = other.summary,
        failure.report = other.report].TFAE
      ∧ readReport failure.report.toList
        = some (failure.message.toList, failure.cause.message.toList) := by
  refine ⟨?_, readReport_report failure⟩
  tfae_have 1 → 2 := by
    intro h
    obtain ⟨hcontext, hcause⟩ := chain_eq_iff.mp h
    rw [summary, summary, hcontext, hcause]
  tfae_have 2 → 1 := by
    intro h
    apply chain_eq_of_toList
    rw [← readSummary_summary, h, readSummary_summary]
  tfae_have 1 → 3 := by
    intro h
    obtain ⟨hcontext, hcause⟩ := chain_eq_iff.mp h
    rw [report, report, hcontext, hcause]
  tfae_have 3 → 1 := by
    intro h
    apply chain_eq_of_toList
    apply Option.some.inj
    rw [← readReport_report, h, readReport_report]
  tfae_finish

end Failure

end PrependList
