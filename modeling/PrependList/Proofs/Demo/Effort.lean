import PrependList.Proofs.Demo.EarlyExit
import PrependList.Proofs.Demo.Verdict
import PrependList.Proofs.Writer.Persistence

/-!
# How many offers a script can be made

A text is offered again after an interruption and after a part of it was taken. An interruption takes
nothing of the text, and behind the listed acts an offer takes nothing of the script, so neither of
the two measures the loop alone. Together they do, if the script does not interrupt for ever: every
offer uses up a listed act, or a character, or it ends the text, and then the first character that was
not taken can pay for it.

So offers and listed acts are added up (`Outlet.effort`). A text raises the sum by its length at most,
whether it fails or not (`EndsWithin`), and lengths add up over the pieces of a value, over values,
and over the banner and the values of a demonstration.
-/

namespace PrependList

namespace Script

/-- No act behind the listed ones interrupts. -/
def Steady (script : Script) : Prop :=
  ∀ error, script.rest = .fail error → error.isInterruption = false

theorem rest_reply (script : Script) (text : List Char) :
    (script.reply text).2.rest = script.rest := by
  rw [reply]
  split
  · split
    · rfl
    · rfl
  · rfl

theorem Steady.of_reply {script next : Script} {text : List Char} {reply : Reply}
    (h : script.Steady) (hreply : script.reply text = (reply, next)) : next.Steady := by
  have hrest : next.rest = script.rest := by
    have hkept := script.rest_reply text
    rwa [hreply] at hkept
  intro error herror
  exact h error (hrest ▸ herror)

/-- Only a listed act of a steady script can interrupt. -/
theorem Steady.pos_of_interrupted {script next : Script} {text : List Char} {error : IoError}
    (h : script.Steady) (hreply : script.reply text = (.failed error, next))
    (herror : error.isInterruption = true) : 0 < script.acts.length := by
  rcases Nat.eq_zero_or_pos script.acts.length with hzero | hpos
  · exfalso
    have hact : script.act = script.rest := by
      rw [act, List.length_eq_zero_iff.mp hzero]
      rfl
    have hfirst := congrArg Prod.fst hreply
    rw [reply, hact] at hfirst
    split at hfirst
    · -- the text fits, so the failure is that of the act
      cases hrest : script.rest with
      | takeAll => rw [hrest] at hfirst; cases hfirst
      | takeUpTo count => rw [hrest] at hfirst; cases hfirst
      | fail cause =>
        rw [hrest] at hfirst
        have hsame : cause = error := Reply.failed.inj hfirst
        rw [hsame] at hrest
        exact absurd herror (by rw [h error hrest]; decide)
    · have hsame : outOfRoom = error := Reply.failed.inj hfirst
      rw [← hsame] at herror
      exact absurd herror (by decide)
  · exact hpos

end Script

namespace Outlet

/-- The offers that were made, and the listed acts that are left. -/
def effort (out : Outlet Script) : Nat := out.offers.size + out.state.acts.length

/-- The outcome has ended, with a sum of offers and acts that is greater by `bound` at most. -/
structure EndsWithin (out : Outlet Script) (bound : Nat)
    (outcome : Except IoError Unit × Outlet Script) : Prop where
  ended : Ended outcome.1
  effort_le : outcome.2.effort ≤ out.effort + bound
  steady : outcome.2.state.Steady

variable {out middle : Outlet Script} {bound more : Nat}
  {outcome : Except IoError Unit × Outlet Script}

theorem EndsWithin.nil (h : out.state.Steady) : out.EndsWithin 0 (.ok (), out) :=
  ⟨ended_ok, Nat.le_refl _, h⟩

/-- What comes before may raise the sum too. -/
theorem EndsWithin.after (hmiddle : middle.effort ≤ out.effort + bound)
    (h : middle.EndsWithin more outcome) : out.EndsWithin (bound + more) outcome := by
  have hlast := h.effort_le
  exact ⟨h.ended, by omega, h.steady⟩

theorem EndsWithin.mono (h : out.EndsWithin bound outcome) (hle : bound ≤ more) :
    out.EndsWithin more outcome := by
  have hlast := h.effort_le
  exact ⟨h.ended, by omega, h.steady⟩

/-- After a failure nothing comes, and nothing is added. -/
theorem EndsWithin.proceed {next : Outlet Script → Except IoError Unit × Outlet Script}
    (h : out.EndsWithin bound outcome)
    (hnext : ∀ middle : Outlet Script, middle.state.Steady →
      middle.EndsWithin more (next middle)) :
    out.EndsWithin (bound + more) (Outlet.proceed next outcome) := by
  obtain ⟨result, middle⟩ := outcome
  cases result with
  | ok _ => exact EndsWithin.after h.effort_le (hnext middle h.steady)
  | error error => exact h.mono (Nat.le_add_right bound more)

/-! ## One text -/

theorem effort_push (next : Script) (offers : Array Offer) (offer : Offer) :
    effort ⟨next, offers.push offer⟩ = offers.size + 1 + next.acts.length := by
  rw [effort, Array.size_push]

variable (patience : Script → Nat)

/-- **A text ends within the acts and its own length**, and adds no more than its length. -/
theorem endsWithin_writeWithin (limit : Nat) :
    ∀ {text : List Char} {out : Outlet Script}, out.state.Steady →
      out.state.acts.length + text.length ≤ limit →
      out.EndsWithin text.length (writeWithin ⟨Script.reply, patience⟩ limit text out) := by
  induction limit with
  | zero =>
    intro text out h hlimit
    have htext : text = [] := List.length_eq_zero_iff.mp (by omega)
    rw [htext, writeWithin_nil]
    exact EndsWithin.nil h
  | succ limit ih =>
    intro text out h hlimit
    cases text with
    | nil => rw [writeWithin_nil]; exact EndsWithin.nil h
    | cons c cs =>
      rcases hreply : out.state.reply (c :: cs) with ⟨reply, next⟩
      have hwrite : (⟨Script.reply, patience⟩ : Writer Script).reply out.state (c :: cs)
          = (reply, next) := hreply
      cases hremains : reply.remains (c :: cs) with
      | error error =>
        -- the first character that was not taken pays for the offer
        rw [writeWithin_of_error hwrite hremains]
        refine ⟨Reply.ended_of_remains hremains, ?_, h.of_reply hreply⟩
        have hacts := Script.length_acts_of_reply hreply
        dsimp only
        rw [effort_push, effort, List.length_cons]
        omega
      | ok rest =>
        rw [writeWithin_of_rest hwrite hremains]
        have hlisted : ∀ error, reply = .failed error → 0 < out.state.acts.length := by
          rintro error rfl
          exact h.pos_of_interrupted hreply (Reply.remains_failed_ok hremains).1
        have hless := Script.acts_add_length_lt hreply hremains (List.cons_ne_nil c cs) hlisted
        have hrest := @ih rest ⟨next, out.offers.push ⟨c :: cs, reply⟩⟩ (h.of_reply hreply)
          (by dsimp only; omega)
        refine ⟨hrest.ended, ?_, hrest.steady⟩
        have hlast := hrest.effort_le
        rw [effort_push] at hlast
        have hout : out.effort = out.offers.size + out.state.acts.length := rfl
        omega

variable {patience} (hpatience : ∀ script : Script, script.acts.length ≤ patience script)
include hpatience

theorem endsWithin_writeAll (h : out.state.Steady) (text : List Char) :
    out.EndsWithin text.length (out.writeAll ⟨Script.reply, patience⟩ text) :=
  endsWithin_writeWithin patience _ h (Nat.add_le_add_right (hpatience out.state) text.length)

/-! ## Pieces and values -/

theorem endsWithin_writePieces (texts : List (List Char)) :
    ∀ {out : Outlet Script}, out.state.Steady →
      out.EndsWithin texts.flatten.length (out.writePieces ⟨Script.reply, patience⟩ texts) := by
  induction texts with
  | nil => intro out h; exact EndsWithin.nil h
  | cons text texts ih =>
    intro out h
    rw [writePieces_cons, List.flatten_cons, List.length_append]
    exact (endsWithin_writeAll hpatience h text).proceed (fun middle hmiddle => ih hmiddle)

end Outlet

namespace Print

variable {patience : Script → Nat}
  (hpatience : ∀ script : Script, script.acts.length ≤ patience script)
include hpatience

theorem endsWithin_int {out : Outlet Script} (h : out.state.Steady) (value : Int32) :
    out.EndsWithin (text value).length (int ⟨Script.reply, patience⟩ out value) := by
  rw [← flatten_pieces]
  exact Outlet.endsWithin_writePieces hpatience (pieces value) h

theorem endsWithin_untilFailure (values : List Int32) :
    ∀ {out : Outlet Script}, out.state.Steady →
      out.EndsWithin (values.flatMap text).length
        (untilFailure ⟨Script.reply, patience⟩ out values) := by
  induction values with
  | nil => intro out h; exact Outlet.EndsWithin.nil h
  | cons value values ih =>
    intro out h
    rw [untilFailure_cons, List.flatMap_cons, List.length_append]
    exact (endsWithin_int hpatience h value).proceed (fun middle hmiddle => ih hmiddle)

/-- **Values that are printed one after another**, whatever comes of each. -/
theorem ints_ends_within (values : List Int32) :
    ∀ {out : Outlet Script}, out.state.Steady →
      (∀ result ∈ (ints ⟨Script.reply, patience⟩ out values).1, Ended result)
        ∧ (ints ⟨Script.reply, patience⟩ out values).2.effort
          ≤ out.effort + (values.flatMap text).length := by
  induction values with
  | nil => intro out _; exact ⟨fun _ h => absurd h List.not_mem_nil, Nat.le_refl _⟩
  | cons value values ih =>
    intro out h
    obtain ⟨hended, hfirst, hmiddle⟩ := endsWithin_int hpatience h value
    obtain ⟨hrest, hlast⟩ := ih hmiddle
    rw [ints, List.flatMap_cons, List.length_append]
    refine ⟨fun result hresult => ?_, by dsimp only; omega⟩
    rcases List.mem_cons.mp hresult with rfl | hmem
    · exact hended
    · exact hrest result hmem

end Print

/-! ## Demonstrations -/

namespace Demo

variable {α : Type} {patience : Script → Nat}
  (hpatience : ∀ script : Script, script.acts.length ≤ patience script)
include hpatience

theorem endsWithin_present {out : Outlet Script} (h : out.state.Steady) (memory : α) :
    let outcome := ((present ⟨Script.reply, patience⟩ chain out).run memory).value
    out.EndsWithin 29 (writerResult outcome.1, outcome.2) := by
  have hbanner := Outlet.endsWithin_writeAll hpatience h banner.toList
  rw [length_banner] at hbanner
  dsimp only
  rcases hwrite : out.writeAll ⟨Script.reply, patience⟩ banner.toList with ⟨result, middle⟩
  rw [hwrite] at hbanner
  cases result with
  | error error =>
    rw [run_present_of_error hwrite]
    exact hbanner.mono (by omega)
  | ok _ =>
    have hvalues := Print.endsWithin_untilFailure hpatience values hbanner.steady
    rw [show (values.flatMap Print.text).length = 10 by decide] at hvalues
    rw [run_present_of_banner hwrite]
    have hall := Outlet.EndsWithin.after hbanner.effort_le hvalues
    dsimp only [chain]
    rcases hprint : Print.untilFailure ⟨Script.reply, patience⟩ middle values with ⟨result, last⟩
    rw [hprint] at hall
    cases result with
    | ok _ => exact hall
    | error error => exact hall

theorem endsWithin_run [Allocator α] {out : Outlet Script} (h : out.state.Steady) (memory : α) :
    let outcome := ((run ⟨Script.reply, patience⟩ out).run memory).value
    out.EndsWithin 29 (writerResult outcome.1, outcome.2) := by
  rcases Allocator.granted_or_refused memory 5 with hgranted | ⟨j, hj, hbefore, hat⟩
  · rw [run_of_granted ⟨Script.reply, patience⟩ out hgranted]
    exact endsWithin_present hpatience h _
  · -- without its chain a demonstration offers nothing
    rw [run_of_refused ⟨Script.reply, patience⟩ out hj hbefore hat]
    exact (Outlet.EndsWithin.nil h).mono (Nat.zero_le 29)

end Demo

theorem Outlet.size_le_of_effort {script : Script} {out : Outlet Script} {bound : Nat}
    (h : out.effort ≤ (Outlet.fresh script).effort + bound) :
    out.offers.size ≤ script.acts.length + bound := by
  have hfresh : (Outlet.fresh script).effort = 0 + script.acts.length := rfl
  have hout : out.effort = out.offers.size + out.state.acts.length := rfl
  omega

/--
**Every run on a script that does not interrupt for ever comes to an end, and soon.**

Texts are offered again as long as it takes: the number of interruptions that are waited out is any
that covers the listed acts, and no result is ever an interruption. Printed values are offered to the
script at most once for every listed act and once for every character of their texts, and so is a
demonstration, whose text has 29 characters, whatever memory answers.
-/
theorem ends_within_script_and_text (script : Script) (hsteady : script.Steady)
    (patience : Script → Nat) (hpatience : ∀ script, script.acts.length ≤ patience script) :
    (∀ values : List Int32,
      let run := Print.ints ⟨Script.reply, patience⟩ (Outlet.fresh script) values
      (∀ result ∈ run.1, Ended result)
        ∧ run.2.offers.size ≤ script.acts.length + (values.flatMap Print.text).length)
    ∧ ∀ (α : Type) [Allocator α] (memory : α),
      let run := (Demo.run ⟨Script.reply, patience⟩ (Outlet.fresh script)).run memory
      Ended (Demo.writerResult run.value.1)
        ∧ run.value.2.offers.size ≤ script.acts.length + 29 := by
  have hfresh : (Outlet.fresh script).state.Steady := hsteady
  refine ⟨fun values => ?_, fun α _ memory => ?_⟩
  · obtain ⟨hended, heffort⟩ := Print.ints_ends_within hpatience values hfresh
    exact ⟨hended, Outlet.size_le_of_effort heffort⟩
  · have hrun := Demo.endsWithin_run hpatience hfresh memory
    exact ⟨hrun.ended, Outlet.size_le_of_effort hrun.effort_le⟩

/-- Both bounds are reached where a text fails on its last character: after one interruption the script
takes single characters, and there is room for all of them but one. -/
theorem ends_within_script_and_text_reached :
    let script : Script :=
      { acts := [.fail (.plain .interrupted)], rest := .takeUpTo 1, room := some 28 }
    let crowded : Script := { script with room := some 2 }
    script.Steady ∧ crowded.Steady
      ∧ ((Demo.run Script.writer (Outlet.fresh script)).run Budget.unlimited).value.2.offers.size
        ≤ 1 + 29
      ∧ ((Demo.run Script.writer (Outlet.fresh script)).run Budget.unlimited).value.2.offers.size
        = 1 + 29
      ∧ (Print.ints Script.writer (Outlet.fresh crowded) [-7]).2.offers.size ≤ 1 + 3
      ∧ (Print.ints Script.writer (Outlet.fresh crowded) [-7]).2.offers.size = 1 + 3 := by
  intro script crowded
  have hsteady : script.Steady := fun _ h => by cases h
  have hcrowded : crowded.Steady := fun _ h => by cases h
  have hwriter : (⟨Script.reply, fun script => script.acts.length⟩ : Writer Script)
      = Script.writer := rfl
  have hpatience : ∀ script : Script, script.acts.length ≤ script.acts.length :=
    fun _ => Nat.le_refl _
  have hdemo := (ends_within_script_and_text script hsteady (fun script => script.acts.length)
    hpatience).2 Budget Budget.unlimited
  have hprints := (ends_within_script_and_text crowded hcrowded (fun script => script.acts.length)
    hpatience).1 [-7]
  have hlength : ([-7].flatMap Print.text).length = 3 := by decide +kernel
  rw [hwriter] at hdemo hprints
  rw [hlength] at hprints
  exact ⟨hsteady, hcrowded, hdemo.2, by decide +kernel, hprints.2, by decide +kernel⟩

end PrependList
