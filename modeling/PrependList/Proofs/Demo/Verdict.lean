import PrependList.Demo.Report
import PrependList.Proofs.Chain.Growth
import PrependList.Proofs.Writer.Delivery
import PrependList.Writer.Script

/-!
# What decides a demonstration

Two numbers decide how a demonstration ends: how many nodes there are, and how many characters the
writer took. With fewer than five nodes nothing is written at all. Otherwise what was taken is a
first part of the text, and its length alone says in which stage the demonstration was when it
failed, or that it did not. Nothing else about the writer matters, and a walk with a visitor does not
fail.

The two halves are proved apart. `run_of_granted` and `run_of_refused` settle the nodes, for every
memory; `present_cases` settles the writer. A writer's patience may be any number, so what is said
here holds of every run that comes to an end.
-/

namespace PrependList

namespace Demo

variable {α σ : Type}

/-- The events of a build that is granted its five nodes. -/
def built : List Event :=
  [.building 5, .prepended 5 1, .prepended 4 2, .prepended 3 3, .prepended 2 4, .prepended 1 5]

/-- The events of the walk, which visits all five values in their order. -/
def walked : List Event :=
  [.traversing 5, .visiting 1, .visiting 2, .visiting 3, .visiting 4, .visiting 5]

/-- The chain of the demonstration. -/
def chain : Chain := ⟨values, 5⟩

theorem text_eq : text = "Created linked list 1 2 3 4 5".toList := by decide

theorem length_banner : banner.toList.length = 19 := by decide

theorem length_text : text.length = 29 := by decide

/-! ## Nodes -/

section Nodes

open Allocator

variable [Allocator α] (writer : Writer σ) (out : Outlet σ) {memory : α}

theorem run_of_granted (h : ∀ i < 5, answer memory i = true) :
    (run writer out).run memory
      = ((present writer chain out).run (after memory 5)).after built := by
  have hbuild : (Chain.ofValues values).run memory = ⟨.ok chain, after memory 5, built⟩ :=
    Chain.run_ofValues_of_granted h
  rw [run, Traced.run_bind, hbuild]

theorem run_of_refused {j : Nat} (hj : j < 5) (hbefore : ∀ i < j, answer memory i = true)
    (hat : answer memory j = false) :
    (run writer out).run memory
      = ⟨(.error ⟨.building, .list .noNode⟩, out), after memory (j + 1),
          .building 5 :: Chain.growth 0 (values.reverse.take j)⟩ := by
  have hbuild : (Chain.ofValues values).run memory
      = ⟨.error .noNode, after memory (j + 1),
          .building 5 :: Chain.growth 0 (values.reverse.take j)⟩ :=
    Chain.run_ofValues_of_refused hj hbefore hat
  rw [run, Traced.run_bind, hbuild]
  simp only [Traced.run_pure, Trace.after, List.append_nil]

end Nodes

/-! ## The writer -/

theorem run_printChain (writer : Writer σ) (out : Outlet σ) (memory : α) :
    (printChain writer chain out).run memory
      = ⟨.ok (values.foldl (Print.unlessFailed writer) (.ok (), out)), memory, walked⟩ := by
  rw [printChain, Chain.run_tryTraverse, Chain.traverse, Chain.run_walk_pure]
  rfl

/--
**The writer's half.** The banner failed and there was no walk, or a value failed and the walk went
on to the end, or all was taken. The three differ in the number of characters that were taken.
-/
theorem present_cases (writer : Writer σ) (state : σ) (memory : α) :
    let trace := (present writer chain (Outlet.fresh state)).run memory
    let taken := trace.value.2.written
    trace.memory = memory ∧ taken <+: text
      ∧ ((∃ error, trace.value.1 = .error ⟨.banner, .io error⟩
            ∧ taken.length < 19 ∧ trace.events = [])
        ∨ (∃ error, trace.value.1 = .error ⟨.printing, .io error⟩
            ∧ 19 ≤ taken.length ∧ taken.length < 29 ∧ trace.events = walked)
        ∨ (trace.value.1 = .ok () ∧ taken.length = 29 ∧ trace.events = walked)) := by
  have hbanner := Outlet.delivers_writeAll writer (Outlet.fresh state) banner.toList
  have hfresh : (Outlet.fresh state).written = [] := rfl
  dsimp only
  rw [present]
  rcases hwrite : (Outlet.fresh state).writeAll writer banner.toList with ⟨result, middle⟩
  rw [hwrite] at hbanner
  cases result with
  | error error =>
    obtain ⟨taken, hpart, htaken, hlen⟩ := hbanner.written_of_error
    rw [hfresh, List.nil_append] at htaken
    rw [length_banner] at hlen
    -- nothing had been written before, so all that was taken is of the banner
    refine ⟨rfl, ?_, Or.inl ⟨error, rfl, ?_, rfl⟩⟩
    · show middle.written <+: text
      rw [htaken]
      exact hpart.trans (List.prefix_append _ _)
    · show middle.written.length < 19
      rw [htaken]
      exact hlen
  | ok _ =>
    have hmiddle : middle.written = banner.toList := by
      rw [hbanner.written_of_ok, hfresh, List.nil_append]
    have hvalues := Print.delivers_foldl_unlessFailed writer values middle
    dsimp only
    rw [Traced.run_bind, run_printChain]
    rcases hfold : values.foldl (Print.unlessFailed writer) (.ok (), middle) with ⟨result, last⟩
    rw [hfold] at hvalues
    -- the banner is out, so what is taken of the values counts on from its length
    have hall : text.length = 19 + (values.flatMap Print.text).length := by
      rw [text, List.length_append, length_banner]
    rw [length_text] at hall
    cases result with
    | error error =>
      obtain ⟨taken, hpart, htaken, hlen⟩ := hvalues.written_of_error
      rw [hmiddle] at htaken
      have hlast : last.written.length = 19 + taken.length := by
        rw [htaken, List.length_append, length_banner]
      refine ⟨rfl, ?_, Or.inr (Or.inl ⟨error, rfl, ?_, ?_, rfl⟩)⟩
      · show last.written <+: text
        rw [htaken]
        exact (List.prefix_append_right_inj banner.toList).mpr hpart
      · show 19 ≤ last.written.length
        omega
      · show last.written.length < 29
        omega
    | ok _ =>
      have hlast : last.written = text := by rw [hvalues.written_of_ok, hmiddle, text]
      refine ⟨rfl, ?_, Or.inr (Or.inr ⟨rfl, ?_, rfl⟩)⟩
      · show last.written <+: text
        exact hlast ▸ List.prefix_rfl
      · show last.written.length = 29
        rw [hlast, length_text]

/-! ## The verdict -/

/-- The demonstration failed, and this is what its failure says first. -/
def FailsWith (result : Except Failure Unit) (context : String) : Prop :=
  ∃ failure, result = .error failure ∧ failure.message = context

theorem failsWith_error {stage : Stage} {cause : Cause} {context : String} :
    FailsWith (.error ⟨stage, cause⟩) context ↔ stage.description = context := by
  constructor
  · rintro ⟨failure, hfailure, hmessage⟩
    rw [← Except.error.inj hfailure] at hmessage
    exact hmessage
  · intro h
    exact ⟨⟨stage, cause⟩, rfl, h⟩

theorem not_failsWith_error {stage : Stage} {cause : Cause} {context : String}
    (h : stage.description ≠ context) : ¬ FailsWith (.error ⟨stage, cause⟩) context :=
  fun hfails => h (failsWith_error.mp hfails)

theorem not_failsWith_ok {context : String} : ¬ FailsWith (.ok ()) context := by
  rintro ⟨failure, hfailure, _⟩
  cases hfailure

/-- The budget is finite and does not reach for five nodes. -/
def Short (budget : Budget) : Prop := ∃ left < 5, budget.left = some left

/-- What a demonstration that has been run on a budget and a fresh writer comes to. -/
structure Decided (budget : Budget) (state : σ)
    (trace : Trace Budget (Except Failure Unit × Outlet σ)) : Prop where
  /-- What the writer took is a first part of the text. -/
  accepted : trace.value.2.written <+: "Created linked list 1 2 3 4 5".toList
  building : FailsWith trace.value.1 "failed to build the list" ↔ Short budget
  /-- The writer has not been offered anything, and all nodes are spent. -/
  building_state : Short budget → trace.value.2 = Outlet.fresh state ∧ trace.memory = ⟨some 0⟩
  banner : FailsWith trace.value.1 "failed to write the banner"
    ↔ ¬ Short budget ∧ trace.value.2.written.length < 19
  /-- After a failed banner there is no walk. -/
  banner_events : FailsWith trace.value.1 "failed to write the banner" → trace.events = built
  printing : FailsWith trace.value.1 "failed to write a list value"
    ↔ ¬ Short budget ∧ 19 ≤ trace.value.2.written.length ∧ trace.value.2.written.length ≤ 28
  /-- After a failed value the walk goes on to the end. -/
  printing_events : FailsWith trace.value.1 "failed to write a list value"
    → trace.events = built ++ walked
  done : trace.value.1 = .ok () ↔ ¬ Short budget ∧ trace.value.2.written.length = 29
  walking : ¬ FailsWith trace.value.1 "failed to walk the list"

/-- With too few nodes. -/
theorem decided_of_short {budget : Budget} {state : σ} {events : List Event} {cause : Cause}
    (h : Short budget) :
    Decided budget state ⟨(.error ⟨.building, cause⟩, Outlet.fresh state), ⟨some 0⟩, events⟩ where
  accepted := List.nil_prefix
  building := iff_of_true (failsWith_error.mpr rfl) h
  building_state := fun _ => ⟨rfl, rfl⟩
  banner := iff_of_false (not_failsWith_error (by decide)) (fun h' => h'.1 h)
  banner_events := fun h' => absurd h' (not_failsWith_error (by decide))
  printing := iff_of_false (not_failsWith_error (by decide)) (fun h' => h'.1 h)
  printing_events := fun h' => absurd h' (not_failsWith_error (by decide))
  done := iff_of_false (by simp) (fun h' => h'.1 h)
  walking := not_failsWith_error (by decide)

/-- With enough nodes the three cases of the writer decide. -/
theorem decided_of_present {budget memory : Budget} {writer : Writer σ} {state : σ}
    (h : ¬ Short budget) :
    Decided budget state
      (((present writer chain (Outlet.fresh state)).run memory).after built) := by
  obtain ⟨-, hpart, hcases⟩ := present_cases writer state memory
  generalize (present writer chain (Outlet.fresh state)).run memory = trace at hpart hcases ⊢
  obtain ⟨⟨result, out⟩, memory, events⟩ := trace
  dsimp only [Trace.after] at hpart hcases ⊢
  rw [text_eq] at hpart
  rcases hcases with ⟨error, rfl, hlen, rfl⟩ | ⟨error, rfl, hlow, hhigh, rfl⟩ | ⟨rfl, hlen, rfl⟩
  · -- the banner failed
    exact {
      accepted := hpart
      building := iff_of_false (not_failsWith_error (by decide)) h
      building_state := fun h' => absurd h' h
      banner := iff_of_true (failsWith_error.mpr rfl) ⟨h, hlen⟩
      banner_events := fun _ => List.append_nil built
      printing := iff_of_false (not_failsWith_error (by decide))
        (fun h' => Nat.not_lt.mpr h'.2.1 hlen)
      printing_events := fun h' => absurd h' (not_failsWith_error (by decide))
      done := iff_of_false (by simp) (fun h' => absurd h'.2 (by dsimp only; omega))
      walking := not_failsWith_error (by decide) }
  · -- a value failed
    exact {
      accepted := hpart
      building := iff_of_false (not_failsWith_error (by decide)) h
      building_state := fun h' => absurd h' h
      banner := iff_of_false (not_failsWith_error (by decide))
        (fun h' => Nat.not_lt.mpr hlow h'.2)
      banner_events := fun h' => absurd h' (not_failsWith_error (by decide))
      printing := iff_of_true (failsWith_error.mpr rfl) ⟨h, hlow, Nat.le_of_lt_succ hhigh⟩
      printing_events := fun _ => rfl
      done := iff_of_false (by simp) (fun h' => absurd h'.2 (by dsimp only; omega))
      walking := not_failsWith_error (by decide) }
  · -- all was taken
    exact {
      accepted := hpart
      building := iff_of_false not_failsWith_ok h
      building_state := fun h' => absurd h' h
      banner := iff_of_false not_failsWith_ok (fun h' => absurd h'.2 (by dsimp only; omega))
      banner_events := fun h' => absurd h' not_failsWith_ok
      printing := iff_of_false not_failsWith_ok (fun h' => absurd h'.2.2 (by dsimp only; omega))
      printing_events := fun h' => absurd h' not_failsWith_ok
      done := iff_of_true rfl ⟨h, hlen⟩
      walking := not_failsWith_ok }

/-- **The budget and the number of characters taken decide a demonstration**, on every writer. -/
theorem run_decided (budget : Budget) (writer : Writer σ) (state : σ) :
    Decided budget state ((run writer (Outlet.fresh state)).run budget) := by
  by_cases hshort : Short budget
  · obtain ⟨left, hleft, hbudget⟩ := hshort
    obtain ⟨_⟩ := budget
    subst hbudget
    -- as many grants as nodes are left, and then the refusal
    have hbefore : ∀ i < left, Allocator.answer (⟨some left⟩ : Budget) i = true :=
      fun i hi => by rw [Budget.answer_some, decide_eq_true hi]
    have hat : Allocator.answer (⟨some left⟩ : Budget) left = false := by
      rw [Budget.answer_some, decide_eq_false (Nat.lt_irrefl left)]
    rw [run_of_refused writer _ hleft hbefore hat, Budget.after_some,
      Nat.sub_eq_zero_of_le (Nat.le_succ left)]
    exact decided_of_short ⟨left, hleft, rfl⟩
  · have hgranted : ∀ i < 5, Allocator.answer budget i = true := by
      intro i hi
      obtain ⟨_ | left⟩ := budget
      · exact Budget.answer_unlimited i
      · have henough : 5 ≤ left := Nat.le_of_not_lt (fun hlt => hshort ⟨left, hlt, rfl⟩)
        rw [Budget.answer_some, decide_eq_true (Nat.lt_of_lt_of_le hi henough)]
    rw [run_of_granted writer _ hgranted]
    exact decided_of_present hshort

/-- Room for the banner and two values. -/
example :
    let trace := (run Script.writer (Outlet.fresh { room := some 23 })).run Budget.unlimited
    trace.value.2.written = "Created linked list 1 2".toList := by decide +kernel

end Demo

end PrependList
