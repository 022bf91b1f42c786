import PrependList.Proofs.Command.Output
import PrependList.Proofs.Demo.EarlyExit
import PrependList.Proofs.Writer.Persistence

/-!
# Interruptions and partial writes are invisible

Values that are printed one after another, and a whole demonstration, are a row of texts, each of
which is offered until it has ended. So what holds of one text holds of them: interruptions that are
inserted into a script change nothing but the offers that they answer, and a writer that goes on
taking something comes to the same as one that takes everything at once.

`interruptions_invisible` says both, for printed values and for demonstrations.
-/

namespace PrependList

/-! ## Up to the first failure -/

namespace Print

theorem mirrors_untilFailure {gaps : Gaps} (values : List Int32) :
    ∀ {out noisy : Outlet Script}, Outlet.Interrupted gaps out noisy →
      Ended (untilFailure Script.writer out values).1 →
      Outlet.Mirrors gaps (untilFailure Script.writer out values)
        (untilFailure Script.writer noisy values) := by
  induction values with
  | nil => intro out noisy h _; exact ⟨rfl, h⟩
  | cons value values ih =>
    intro out noisy h hended
    rw [untilFailure_cons] at hended ⊢
    exact Outlet.Mirrors.proceed (mirrors_int h) (fun hmiddle => ih hmiddle) hended

theorem completes_untilFailure {σ : Type} {reply : σ → List Char → Reply × σ} {Good : σ → Prop}
    (h : Receptive reply Good) (values : List Int32) :
    ∀ {out : Outlet σ}, Good out.state →
      out.Completes reply Good (values.flatMap text) (.ok () : Except IoError Unit)
        fun writer => untilFailure writer out values := by
  induction values with
  | nil => intro out hgood; exact Outlet.Completes.nil hgood (.ok () : Except IoError Unit)
  | cons value values ih =>
    intro out hgood
    simp only [untilFailure_cons, List.flatMap_cons]
    exact (completes_int h hgood value).proceed (fun middle hmiddle => ih hmiddle)

end Print

/-! ## Demonstrations -/

namespace Demo

variable {α σ τ : Type}

/-- The second demonstration came to the same as the first, but for the interruptions. -/
structure Mirrors (gaps : Gaps) (plain noisy : Trace α (Except Failure Unit × Outlet Script)) :
    Prop where
  value : Outlet.Mirrors gaps plain.value noisy.value
  memory : noisy.memory = plain.memory
  events : noisy.events = plain.events

theorem mirrors_present {gaps : Gaps} {out noisy : Outlet Script}
    (h : Outlet.Interrupted gaps out noisy) (chain : Chain) (memory : α)
    (hended : Ended (writerResult ((present Script.writer chain out).run memory).value.1)) :
    Mirrors gaps ((present Script.writer chain out).run memory)
      ((present Script.writer chain noisy).run memory) := by
  rcases hwrite : out.writeAll Script.writer banner.toList with ⟨result, middle⟩
  rcases hnoisy : noisy.writeAll Script.writer banner.toList with ⟨other, middleNoisy⟩
  have hbanner := @Outlet.Interrupted.writeAll gaps out noisy h banner.toList
  rw [hwrite, hnoisy] at hbanner
  cases result with
  | error error =>
    rw [run_present_of_error hwrite] at hended ⊢
    obtain ⟨hresult, hmiddle⟩ := hbanner hended
    have hsame : other = .error error := hresult
    rw [run_present_of_error (hsame ▸ hnoisy)]
    exact ⟨⟨rfl, hmiddle⟩, rfl, rfl⟩
  | ok _ =>
    obtain ⟨hresult, hmiddle⟩ := hbanner ended_ok
    have hsame : other = .ok () := hresult
    rw [run_present_of_banner hwrite] at hended ⊢
    rw [run_present_of_banner (hsame ▸ hnoisy)]
    have hvalues : Ended (Print.untilFailure Script.writer middle chain.nodes).1 := by
      dsimp only at hended
      rcases hprint : Print.untilFailure Script.writer middle chain.nodes with ⟨result, last⟩
      rw [hprint] at hended
      cases result with
      | ok _ => exact ended_ok
      | error error => exact hended
    obtain ⟨hlast, hout⟩ := Print.mirrors_untilFailure chain.nodes hmiddle hvalues
    refine ⟨⟨?_, hout⟩, rfl, rfl⟩
    dsimp only
    rw [hlast]

theorem mirrors_run [Allocator α] {gaps : Gaps} {out noisy : Outlet Script}
    (h : Outlet.Interrupted gaps out noisy) (memory : α)
    (hended : Ended (writerResult ((run Script.writer out).run memory).value.1)) :
    Mirrors gaps ((run Script.writer out).run memory) ((run Script.writer noisy).run memory) := by
  rcases Allocator.granted_or_refused memory 5 with hgranted | ⟨j, hj, hbefore, hat⟩
  · rw [run_of_granted Script.writer out hgranted] at hended ⊢
    rw [run_of_granted Script.writer noisy hgranted]
    obtain ⟨hvalue, hmemory, hevents⟩ := mirrors_present h chain _ hended
    exact ⟨hvalue, hmemory, congrArg (built ++ ·) hevents⟩
  · -- without its chain a demonstration writes nothing
    rw [run_of_refused Script.writer out hj hbefore hat,
      run_of_refused Script.writer noisy hj hbefore hat]
    exact ⟨⟨rfl, h⟩, rfl, rfl⟩

/-- The writer takes all of a demonstration's text. -/
def Taken (writer : Writer σ) (out : Outlet σ) : Prop :=
  ∃ middle last, out.writeAll writer banner.toList = (.ok (), middle)
    ∧ Print.untilFailure writer middle values = (.ok (), last)

/-- With five nodes such a demonstration succeeds, and its text has been written. -/
theorem Taken.run_of_granted [Allocator α] {writer : Writer σ} {out : Outlet σ}
    (h : Taken writer out) {memory : α} (hgranted : ∀ i < 5, Allocator.answer memory i = true) :
    ∃ last, (run writer out).run memory
        = ⟨(.ok (), last), Allocator.after memory 5, built ++ walked⟩
      ∧ last.written = out.written ++ text := by
  obtain ⟨middle, last, hbanner, hvalues⟩ := h
  refine ⟨last, ?_, ?_⟩
  · rw [Demo.run_of_granted writer out hgranted, run_present_of_ok hbanner hvalues]
    rfl
  · have hfirst := Outlet.delivers_writeAll writer out banner.toList
    have hrest := Print.delivers_foldl_unlessFailed writer values middle
    rw [hbanner] at hfirst
    rw [Print.foldl_unlessFailed, hvalues] at hrest
    rw [hrest.written_of_ok, hfirst.written_of_ok, text, List.append_assoc]

/-- **Writers that take the whole text cannot be told apart.** -/
theorem Taken.same [Allocator α] {writer : Writer σ} {other : Writer τ} {state : σ} {start : τ}
    (h : Taken writer (Outlet.fresh state)) (hother : Taken other (Outlet.fresh start))
    (memory : α) :
    let first := (run writer (Outlet.fresh state)).run memory
    let second := (run other (Outlet.fresh start)).run memory
    first.value.1 = second.value.1 ∧ first.value.2.written = second.value.2.written
      ∧ first.memory = second.memory ∧ first.events = second.events := by
  rcases Allocator.granted_or_refused memory 5 with hgranted | ⟨j, hj, hbefore, hat⟩
  · obtain ⟨last, hrun, hwritten⟩ := h.run_of_granted hgranted
    obtain ⟨final, hfinal, hsame⟩ := hother.run_of_granted hgranted
    rw [hrun, hfinal]
    exact ⟨rfl, hwritten.trans hsame.symm, rfl, rfl⟩
  · rw [run_of_refused writer _ hj hbefore hat, run_of_refused other _ hj hbefore hat]
    exact ⟨rfl, rfl, rfl, rfl⟩

theorem exists_taken {reply : σ → List Char → Reply × σ} {Good : σ → Prop}
    (h : Receptive reply Good) {out : Outlet σ} (hgood : Good out.state) :
    ∃ bound, ∀ patience : σ → Nat, (∀ state, bound ≤ patience state) →
      Taken ⟨reply, patience⟩ out := by
  obtain ⟨first, middle, hmiddle, -, hbanner⟩ :=
    Outlet.completes_writeAll h hgood banner.toList
  obtain ⟨second, last, -, -, hvalues⟩ := Print.completes_untilFailure h values hmiddle
  refine ⟨max first second, fun patience hpatience => ⟨middle, last, ?_, ?_⟩⟩
  · exact hbanner patience (fun state => by have := hpatience state; omega)
  · exact hvalues patience (fun state => by have := hpatience state; omega)

theorem taken_buffer : Taken Command.buffer (Outlet.fresh ()) := by
  obtain ⟨middle, hmiddle, -⟩ :=
    Outlet.exists_writeAll Command.accepts_buffer (Outlet.fresh ()) trivial banner.toList
  obtain ⟨last, hlast, -⟩ :=
    Print.exists_untilFailure Command.accepts_buffer values middle trivial
  exact ⟨middle, last, hmiddle, hlast⟩

end Demo

theorem Print.ints_buffer (values : List Int32) (out : Outlet Unit) :
    ∃ last, Print.ints Command.buffer out values = (values.map fun _ => .ok (), last)
      ∧ last.written = out.written ++ values.flatMap Print.text :=
  Print.exists_ints Command.accepts_buffer values out trivial

/-! ## Both together -/

/-- All that the inserted interruptions have changed is that there are offers which they answered. -/
structure Outlet.SameButFor {β : Type} (gaps : Gaps) (plain noisy : β × Outlet Script) : Prop where
  result : noisy.1 = plain.1
  written : noisy.2.written = plain.2.written
  /-- The interrupted offers come before the one that they delay, and are of its text. -/
  woven : noisy.2.offers.toList = weave gaps plain.2.offers.toList
  /-- Without the interrupted offers the offers are those of the first run. -/
  unwoven : unweave gaps noisy.2.offers.toList = plain.2.offers.toList

theorem Outlet.Mirrors.sameButFor {β : Type} {gaps : Gaps} {plain noisy : β × Outlet Script}
    (h : Outlet.Mirrors gaps plain noisy) : Outlet.SameButFor gaps plain noisy where
  result := h.result
  written := h.outlet.written
  woven := h.outlet.offers
  unwoven := by rw [h.outlet.offers, unweave_weave]

/--
**Interruptions and partial writes are invisible.**

Insert any interruptions into a script without a limited room. If a run of printed values or a
demonstration comes to an end, it now comes to the same end, and the offers are the old ones with the
interrupted ones among them. A run ends if no result is an interruption, and on a script that is so
unless no number of offers would have ended some text.

Hence a writer that goes on taking something cannot be told from one that takes everything at once.
It may be any state machine, and each text may be interrupted any finite number of times.
-/
theorem interruptions_invisible :
    (∀ (script : Script) (gaps : Gaps), script.room = none →
      (∀ values : List Int32,
        let plain := Print.ints Script.writer (Outlet.fresh script) values
        let noisy := Print.ints Script.writer (Outlet.fresh (script.interrupted gaps)) values
        (∀ result ∈ plain.1, Ended result) → Outlet.SameButFor gaps plain noisy)
      ∧ ∀ (α : Type) [Allocator α] (memory : α),
        let plain := (Demo.run Script.writer (Outlet.fresh script)).run memory
        let noisy := (Demo.run Script.writer (Outlet.fresh (script.interrupted gaps))).run memory
        Ended (Demo.writerResult plain.value.1) → Outlet.SameButFor gaps plain.value noisy.value
          ∧ noisy.memory = plain.memory ∧ noisy.events = plain.events)
    ∧ (∀ (out : Outlet Script) (text : List Char),
      Ended (out.writeAll Script.writer text).1
        ↔ ∃ limit, Ended (Outlet.writeWithin Script.writer limit text out).1)
    ∧ ∀ (σ : Type) (reply : σ → List Char → Reply × σ) (Good : σ → Prop) (state : σ),
      Receptive reply Good → Good state →
        (∀ values : List Int32, ∃ bound, ∀ patience : σ → Nat, (∀ state, bound ≤ patience state) →
          let run := Print.ints ⟨reply, patience⟩ (Outlet.fresh state) values
          let whole := Print.ints Command.buffer (Outlet.fresh ()) values
          run.1 = whole.1 ∧ (∀ result ∈ run.1, result = .ok ())
            ∧ run.2.written = whole.2.written)
        ∧ ∀ (α : Type) [Allocator α] (memory : α),
          ∃ bound, ∀ patience : σ → Nat, (∀ state, bound ≤ patience state) →
            let run := (Demo.run ⟨reply, patience⟩ (Outlet.fresh state)).run memory
            let whole := (Demo.run Command.buffer (Outlet.fresh ())).run memory
            (run.value.1 = whole.value.1 ∧ run.value.2.written = whole.value.2.written
              ∧ run.memory = whole.memory ∧ run.events = whole.events)
            ∧ ((∀ i < 5, Allocator.answer memory i = true) → run.value.1 = .ok ()) := by
  refine ⟨fun script gaps hroom => ⟨fun values hended => ?_, fun α _ memory hended => ?_⟩,
    Outlet.ended_writeAll_iff, fun σ reply Good state h hgood => ⟨fun values => ?_,
      fun α _ memory => ?_⟩⟩
  · exact (Print.mirrors_ints values (Outlet.Interrupted.fresh gaps hroom) hended).sameButFor
  · have hmirrors := Demo.mirrors_run (Outlet.Interrupted.fresh gaps hroom) memory hended
    exact ⟨hmirrors.value.sameButFor, hmirrors.memory, hmirrors.events⟩
  · have hfresh : Good (Outlet.fresh state).state := hgood
    obtain ⟨bound, last, -, hwritten, hrun⟩ := Print.completes_ints h values hfresh
    refine ⟨bound, fun patience hpatience => ?_⟩
    obtain ⟨final, hwhole, hsame⟩ := Print.ints_buffer values (Outlet.fresh ())
    have hints : Print.ints ⟨reply, patience⟩ (Outlet.fresh state) values = _ :=
      hrun patience hpatience
    rw [hints, hwhole]
    refine ⟨rfl, fun result hresult => ?_, hwritten.trans hsame.symm⟩
    obtain ⟨value, -, hvalue⟩ := List.mem_map.mp hresult
    exact hvalue.symm
  · have hfresh : Good (Outlet.fresh state).state := hgood
    obtain ⟨bound, htaken⟩ := Demo.exists_taken h hfresh
    refine ⟨bound, fun patience hpatience => ⟨?_, fun hgranted => ?_⟩⟩
    · exact (htaken patience hpatience).same Demo.taken_buffer memory
    · obtain ⟨last, hrun, -⟩ := (htaken patience hpatience).run_of_granted hgranted
      rw [hrun]

/-- The digits are taken in three parts, and the two interruptions fall between the first part and
the second. Another writer is interrupted before every character. -/
theorem interruptions_invisible_digits :
    let script : Script := { acts := [.takeAll, .takeAll, .takeUpTo 2, .takeUpTo 1] }
    let gaps : Gaps := [[], [], [], [⟨.plain .interrupted, by decide⟩,
      ⟨.system .interruptedCall, by decide⟩]]
    let noisy := Print.ints Script.writer (Outlet.fresh (script.interrupted gaps)) [-12345]
    let slow : Bool → List Char → Reply × Bool := fun ready _ =>
      if ready then (.took 1, false) else (.failed (.plain .interrupted), true)
    noisy.2.offers.size = 7
      ∧ noisy.1 = [.ok ()]
      ∧ unweave gaps noisy.2.offers.toList
        = [⟨[' '], .took 1⟩, ⟨['-'], .took 1⟩, ⟨"12345".toList, .took 2⟩, ⟨"345".toList, .took 1⟩,
          ⟨"45".toList, .took 2⟩]
      ∧ ∃ bound, ∀ patience : Bool → Nat, (∀ state, bound ≤ patience state) →
        (Print.ints ⟨slow, patience⟩ (Outlet.fresh false) [7, -1]).2.written = " 7 -1".toList := by
  intro script gaps noisy slow
  obtain ⟨hscripts, -, hwriters⟩ := interruptions_invisible
  have hplain : (Print.ints Script.writer (Outlet.fresh script) [-12345]).1 = [.ok ()] := by rfl
  have hended : ∀ result ∈ (Print.ints Script.writer (Outlet.fresh script) [-12345]).1,
      Ended result := by
    intro result hresult
    rw [hplain] at hresult
    rw [List.mem_singleton.mp hresult]
    exact ended_ok
  have hsame := (hscripts script gaps rfl).1 [-12345] hended
  have hslow : Receptive slow fun _ => True := by
    intro ready _ c cs
    have hready : Takes slow (fun _ => True) (c :: cs) true := Takes.now rfl trivial
    cases ready with
    | true => exact hready
    | false => exact Takes.later rfl (by decide) hready
  obtain ⟨bound, hbound⟩ := (hwriters Bool slow _ false hslow trivial).1 [7, -1]
  refine ⟨by decide +kernel, hsame.result.trans hplain,
    hsame.unwoven.trans (by decide +kernel), bound, fun patience hpatience => ?_⟩
  exact (hbound patience hpatience).2.2.trans (by decide +kernel)

end PrependList
