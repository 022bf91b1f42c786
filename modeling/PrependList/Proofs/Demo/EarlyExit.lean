import PrependList.Proofs.Chain.Growth
import PrependList.Proofs.Writer.Acceptance
import PrependList.Proofs.Writer.Conclusion
import PrependList.Proofs.Writer.Delivery
import PrependList.Demo.Basic
import PrependList.Writer.Script

/-!
# A walk that cannot stop, and a loop that does

The visitor of the demonstration keeps the first failure and lets the values after it pass, because
a walk hands it every value. A plain loop would return at the first failure. `untilFailure` is that
loop, and the two are the same on every writer: they make the same offers, get the same replies, and
end with the same error. This matters on a writer that recovers, where one offer too many would
succeed.

For a whole demonstration it follows that the failure that is reported is the one that the writer
gave last.
-/

namespace PrependList

namespace Print

variable {σ : Type} (writer : Writer σ)

/-- Prints the values in order and returns at the first failure. -/
def untilFailure (out : Outlet σ) : List Int32 → Except IoError Unit × Outlet σ
  | [] => (.ok (), out)
  | value :: values =>
    match int writer out value with
    | (.ok (), out) => untilFailure out values
    | (.error error, out) => (.error error, out)

theorem untilFailure_cons (out : Outlet σ) (value : Int32) (values : List Int32) :
    untilFailure writer out (value :: values)
      = Outlet.proceed (fun out => untilFailure writer out values) (int writer out value) := rfl

/-- **A fold that lets values pass after a failure returns like the loop.** -/
theorem foldl_unlessFailed (values : List Int32) :
    ∀ out : Outlet σ,
      values.foldl (unlessFailed writer) (.ok (), out) = untilFailure writer out values := by
  induction values with
  | nil => intro out; rfl
  | cons value values ih =>
    intro out
    show values.foldl (unlessFailed writer) (int writer out value) = _
    rw [untilFailure]
    rcases int writer out value with ⟨result, middle⟩
    cases result with
    | ok _ => exact ih middle
    | error error => exact foldl_unlessFailed_error writer values error middle

theorem concludes_untilFailure (values : List Int32) :
    ∀ out : Outlet σ, out.Concludes (untilFailure writer out values) := by
  induction values with
  | nil => intro out; exact Outlet.Concludes.nil out
  | cons value values ih =>
    intro out
    rw [untilFailure_cons]
    exact (concludes_int writer out value).proceed ih

variable {writer} in
/-- On a writer that accepts everything the loop does not return early. -/
theorem exists_untilFailure {Good : σ → Prop} (h : writer.Accepts Good) (values : List Int32) :
    ∀ out : Outlet σ, Good out.state →
      ∃ last, untilFailure writer out values = (.ok (), last) ∧ Good last.state := by
  induction values with
  | nil => intro out hgood; exact ⟨out, rfl, hgood⟩
  | cons value values ih =>
    intro out hgood
    obtain ⟨middle, hmiddle, hgood⟩ := exists_int h out hgood value
    rw [untilFailure, hmiddle]
    exact ih middle hgood

end Print

namespace Demo

variable {α σ : Type}

/-- The visitor of the demonstration. -/
def printing (writer : Writer σ) : Chain.Visitor α (Except IoError Unit × Outlet σ) :=
  fun state value => return Print.unlessFailed writer state value

/-- **The walk returns what the loop returns**, and goes on to the end. -/
theorem run_traverse_printing (writer : Writer σ) (chain : Chain) (out : Outlet σ) (memory : α) :
    (chain.traverse (printing writer) (.ok (), out)).run memory
      = ⟨Print.untilFailure writer out chain.nodes, memory, chain.nodes.map .visiting⟩ := by
  refine (Chain.run_walk_pure (Print.unlessFailed writer) chain.nodes _ memory).trans ?_
  rw [Print.foldl_unlessFailed]

theorem run_printChain_eq (writer : Writer σ) (chain : Chain) (out : Outlet σ) (memory : α) :
    (printChain writer chain out).run memory
      = ⟨.ok (Print.untilFailure writer out chain.nodes), memory,
          .traversing chain.length :: chain.nodes.map .visiting⟩ := by
  show (chain.tryTraverse (some (printing writer)) (.ok (), out)).run memory = _
  rw [Chain.run_tryTraverse, run_traverse_printing]

/-! ## The whole demonstration -/

/-- Without the banner there is no walk. -/
theorem run_present_of_error {writer : Writer σ} {out middle : Outlet σ} {error : IoError}
    (hbanner : out.writeAll writer banner.toList = (.error error, middle)) (chain : Chain)
    (memory : α) :
    (present writer chain out).run memory
      = ⟨(.error ⟨.banner, .io error⟩, middle), memory, []⟩ := by
  rw [present, hbanner]
  rfl

/-- After the banner the values decide. -/
theorem run_present_of_banner {writer : Writer σ} {out middle : Outlet σ}
    (hbanner : out.writeAll writer banner.toList = (.ok (), middle)) (chain : Chain) (memory : α) :
    (present writer chain out).run memory
      = let outcome := Print.untilFailure writer middle chain.nodes
        ⟨(outcome.1.mapError fun error => ⟨.printing, .io error⟩, outcome.2), memory,
          .traversing chain.length :: chain.nodes.map .visiting⟩ := by
  rw [present, hbanner]
  dsimp only
  rw [Traced.run_bind, run_printChain_eq]
  simp only [Traced.run_pure, Trace.after, List.append_nil]

/-- On a writer that takes everything the walk and the result are as good as can be. -/
theorem run_present_of_ok {writer : Writer σ} {chain : Chain} {out middle last : Outlet σ}
    (hbanner : out.writeAll writer banner.toList = (.ok (), middle))
    (hvalues : Print.untilFailure writer middle chain.nodes = (.ok (), last)) (memory : α) :
    (present writer chain out).run memory
      = ⟨(.ok (), last), memory, .traversing chain.length :: chain.nodes.map .visiting⟩ := by
  rw [run_present_of_banner hbanner, hvalues]
  rfl

/-- What the result says of the writer: its error, if it is what failed. -/
def writerResult : Except Failure Unit → Except IoError Unit
  | .error ⟨_, .io error⟩ => .error error
  | _ => .ok ()

/-- **The offers of a demonstration, banner and values together, conclude with its result.** -/
theorem concludes_present (writer : Writer σ) (chain : Chain) (out : Outlet σ) (memory : α) :
    let outcome := ((present writer chain out).run memory).value
    out.Concludes (writerResult outcome.1, outcome.2) := by
  have hbanner := Outlet.concludes_writeAll writer out banner.toList
  dsimp only
  rcases hwrite : out.writeAll writer banner.toList with ⟨result, middle⟩
  rw [hwrite] at hbanner
  cases result with
  | error error =>
    rw [run_present_of_error hwrite]
    exact hbanner
  | ok _ =>
    have hvalues := Print.concludes_untilFailure writer chain.nodes middle
    rw [run_present_of_banner hwrite]
    dsimp only
    rcases hprint : Print.untilFailure writer middle chain.nodes with ⟨result, last⟩
    rw [hprint] at hvalues
    cases result with
    | ok _ => exact hbanner.append hvalues
    | error error => exact hbanner.append hvalues

theorem concludes_run [Allocator α] (writer : Writer σ) (out : Outlet σ) (memory : α) :
    let outcome := ((run writer out).run memory).value
    out.Concludes (writerResult outcome.1, outcome.2) := by
  dsimp only
  rw [run, Traced.run_bind]
  rcases ((Chain.ofValues values).run memory) with ⟨result, later, events⟩
  cases result with
  | error error => exact Outlet.Concludes.nil out
  | ok chain => exact concludes_present writer chain out later

/--
**The visitor that cannot stop the walk refines the loop that returns early.**

For every chain and every writer the walk comes to what the loop comes to: the offers with their
texts and replies and the writer's state, which an outlet holds, and the result. The visitor is shown
every value once, in order, and each is announced. What is offered for the values ends at the first
offer that ends, and so does what a whole demonstration offers, whose error is that of its last offer.
-/
theorem printing_refines_early_exit [Allocator α] (writer : Writer σ) :
    (∀ (chain : Chain) (out : Outlet σ) (memory : α),
      let plain := Print.untilFailure writer out chain.values
      (printChain writer chain out).run memory
          = ⟨.ok plain, memory, .traversing chain.length :: chain.values.map .visiting⟩
        ∧ ((chain.tryTraverse (some (Chain.recording (printing writer)))
              ((.ok (), out), [])).run memory).value = .ok (plain, chain.values)
        ∧ ∃ offers, plain.2.offers.toList = out.offers.toList ++ offers
            ∧ EndsAtFirst offers plain.1)
      ∧ ∀ (state : σ) (memory : α),
          let outcome := ((run writer (Outlet.fresh state)).run memory).value
          EndsAtFirst outcome.2.offers.toList (writerResult outcome.1) := by
  refine ⟨fun chain out memory => ⟨run_printChain_eq writer chain out memory, ?_, ?_⟩, ?_⟩
  · rw [Chain.run_tryTraverse, Chain.traverse, Chain.run_walk_recording]
    dsimp only
    have hwalk := run_traverse_printing writer chain out memory
    rw [Chain.traverse] at hwalk
    rw [hwalk, List.nil_append]
    rfl
  · obtain ⟨offers, hadded, hconcluded⟩ := Print.concludes_untilFailure writer chain.nodes out
    exact ⟨offers, hadded, hconcluded.endsAtFirst⟩
  · intro state memory outcome
    obtain ⟨offers, hadded, hconcluded⟩ := concludes_run writer (Outlet.fresh state) memory
    -- a fresh outlet has no offers, so the ones that were added are all
    have hall : outcome.2.offers.toList = offers := hadded
    rw [hall]
    exact hconcluded.endsAtFirst

/-- The third offer fails, and a fourth would have been taken. -/
example :
    let script : Script := { acts := [.takeAll, .takeAll, .fail (.plain .timedOut)] }
    let trace := (run Script.writer (Outlet.fresh script)).run Budget.unlimited
    trace.value.2.offers.size = 3
      ∧ trace.value.2.written = "Created linked list ".toList := by decide +kernel

end Demo

end PrependList
