import PrependList.Proofs.Writer.Delivery
import PrependList.Proofs.Writer.Interruption

/-!
# Writers that are never given up

Offering a text again and again is an endless loop on a writer that only interrupts. A text is
therefore offered a limited number of times, and here it is shown that the limit does not matter. On
a script it is exact: a text that any number of offers would end is ended within the limit
(`ended_writeAll_iff`). And on every writer that goes on taking something, after interruptions of any
finite number, there is a limit from which on all texts are taken (`completes_writeAll`).
-/

namespace PrependList

/-! ## Scripts -/

namespace Script

variable {script next : Script} {text : List Char} {error : IoError}

/-- Every offer uses up one act. -/
theorem acts_reply (script : Script) (text : List Char) :
    (script.reply text).2.acts = script.acts.tail := by
  rw [reply]
  split
  · split
    · rfl
    · rfl
  · rfl

theorem length_acts_of_reply {reply : Reply} (h : script.reply text = (reply, next)) :
    next.acts.length = script.acts.length - 1 := by
  have htail := script.acts_reply text
  rw [h] at htail
  rw [show next.acts = _ from htail, List.length_tail]

/-- **Acts and characters together get fewer** with every offer after which something is left to
offer, unless it was interrupted by an act behind the listed ones. -/
theorem acts_add_length_lt {rest : List Char} {reply : Reply}
    (hreply : script.reply text = (reply, next)) (hrest : reply.remains text = .ok rest)
    (htext : text ≠ []) (hlisted : ∀ error, reply = .failed error → 0 < script.acts.length) :
    next.acts.length + rest.length < script.acts.length + text.length := by
  have hacts := length_acts_of_reply hreply
  have hlength : 0 < text.length := List.length_pos_iff.mpr htext
  cases reply with
  | took count =>
    cases count with
    | zero => cases hrest
    | succ count =>
      cases hrest
      rw [List.length_drop]
      omega
  | failed error =>
    -- nothing was taken of the text, but an act was used up
    obtain ⟨-, rfl⟩ := Reply.remains_failed_ok hrest
    have hpos := hlisted error rfl
    omega

/-- Without listed acts a failure changes nothing about the script. -/
theorem eq_of_failed (h : script.reply text = (.failed error, next)) (hacts : script.acts = []) :
    next = script := by
  have hnext : next = script.after 0 := by
    rw [reply] at h
    split at h
    · split at h
      · cases h
      · exact (congrArg Prod.snd h).symm
    · exact (congrArg Prod.snd h).symm
  obtain ⟨acts, rest, room⟩ := script
  subst hacts
  rw [hnext]
  cases room with
  | none => rfl
  | some room => rfl

end Script

namespace Outlet

/-- A script that has run out of acts and interrupts does so for ever. -/
theorem not_ended_of_interrupts {script : Script} {c : Char} {cs : List Char} {error : IoError}
    (hreply : script.reply (c :: cs) = (.failed error, script))
    (herror : error.isInterruption = true) (limit : Nat) :
    ∀ offers : Array Offer,
      ¬ Ended (writeWithin Script.writer limit (c :: cs) ⟨script, offers⟩).1 := by
  induction limit with
  | zero => intro offers; exact not_ended_impatient
  | succ limit ih =>
    intro offers
    have hstate : Script.writer.reply (⟨script, offers⟩ : Outlet Script).state (c :: cs)
        = (.failed error, script) := hreply
    rw [writeWithin_of_interrupted hstate herror]
    exact ih _

theorem ended_of_ended (limit : Nat) :
    ∀ {text : List Char} {out : Outlet Script},
      Ended (writeWithin Script.writer limit text out).1 →
      Ended (writeWithin Script.writer (out.state.acts.length + text.length) text out).1 := by
  induction limit with
  | zero =>
    intro text out h
    cases text with
    | nil => rw [writeWithin_nil]; exact ended_ok
    | cons c cs => exact absurd h not_ended_impatient
  | succ limit ih =>
    intro text out h
    cases text with
    | nil => rw [writeWithin_nil]; exact ended_ok
    | cons c cs =>
      rcases hreply : out.state.reply (c :: cs) with ⟨reply, next⟩
      have hwrite : Script.writer.reply out.state (c :: cs) = (reply, next) := hreply
      rw [List.length_cons, ← Nat.add_assoc]
      cases hremains : reply.remains (c :: cs) with
      | error error =>
        rw [writeWithin_of_error hwrite hremains]
        exact Reply.ended_of_remains hremains
      | ok rest =>
        rw [writeWithin_of_rest hwrite hremains] at h ⊢
        have hrest := ih h
        have hlisted : ∀ error, reply = .failed error → 0 < out.state.acts.length := by
          rintro error rfl
          rcases Nat.eq_zero_or_pos out.state.acts.length with hzero | hpos
          · -- no act is left that could end it, and it would go on like this for ever
            obtain ⟨hinterrupted, rfl⟩ := Reply.remains_failed_ok hremains
            have hnext : next = out.state :=
              Script.eq_of_failed hreply (List.length_eq_zero_iff.mp hzero)
            subst hnext
            exact absurd h (not_ended_of_interrupts hreply hinterrupted limit _)
          · exact hpos
        have hless := Script.acts_add_length_lt hreply hremains (List.cons_ne_nil c cs) hlisted
        have hlimit : next.acts.length + rest.length ≤ out.state.acts.length + cs.length := by
          rw [List.length_cons] at hless
          omega
        rw [writeWithin_of_le Script.writer _ hlimit hrest]
        exact hrest

/-- **A text that any number of offers would end is ended within the limit**, on every script. -/
theorem ended_writeAll_iff (out : Outlet Script) (text : List Char) :
    Ended (out.writeAll Script.writer text).1
      ↔ ∃ limit, Ended (writeWithin Script.writer limit text out).1 :=
  ⟨fun h => ⟨_, h⟩, fun ⟨limit, h⟩ => ended_of_ended limit h⟩

end Outlet

/-! ## Writers that go on taking -/

section

variable {σ : Type}

/-- Offered this text over and over, the writer takes some of it in the end, and whatever comes
before is an interruption. It is good again afterwards. -/
inductive Takes (reply : σ → List Char → Reply × σ) (Good : σ → Prop) (text : List Char) :
    σ → Prop where
  | now {state next : σ} {count : Nat} : reply state text = (.took (count + 1), next) →
      Good next → Takes reply Good text state
  | later {state next : σ} {error : IoError} : reply state text = (.failed error, next) →
      error.isInterruption = true → Takes reply Good text next → Takes reply Good text state

/-- In a good state every text that is not empty is taken, in part at least. -/
def Receptive (reply : σ → List Char → Reply × σ) (Good : σ → Prop) : Prop :=
  ∀ state, Good state → ∀ (c : Char) (cs : List Char), Takes reply Good (c :: cs) state

namespace Outlet

variable {reply : σ → List Char → Reply × σ} {Good : σ → Prop} {β : Type}

/-- Every writer with these replies that has enough patience ends with this value; all of the text
has been written, and the writer is good. -/
def Completes (reply : σ → List Char → Reply × σ) (Good : σ → Prop) (out : Outlet σ)
    (text : List Char) (value : β) (run : Writer σ → β × Outlet σ) : Prop :=
  ∃ bound last, Good last.state ∧ last.written = out.written ++ text
    ∧ ∀ patience : σ → Nat, (∀ state, bound ≤ patience state) →
      run ⟨reply, patience⟩ = (value, last)

/-- After some offers a part of the text has been taken. -/
theorem exists_part {c : Char} {cs : List Char} {state : σ}
    (h : Takes reply Good (c :: cs) state) :
    ∀ offers : Array Offer, ∃ (waits count : Nat) (next : Outlet σ), Good next.state
      ∧ ∀ (patience : σ → Nat) (limit : Nat),
        writeWithin ⟨reply, patience⟩ (limit + waits) (c :: cs) ⟨state, offers⟩
          = writeWithin ⟨reply, patience⟩ limit (cs.drop count) next := by
  induction h with
  | @now state next count hreply hnext =>
    intro offers
    refine ⟨1, count, ⟨next, offers.push ⟨c :: cs, .took (count + 1)⟩⟩, hnext,
      fun patience limit => ?_⟩
    have htook : (⟨reply, patience⟩ : Writer σ).reply (⟨state, offers⟩ : Outlet σ).state (c :: cs)
        = (.took (count + 1), next) := hreply
    exact writeWithin_of_rest htook rfl limit
  | @later state next error hreply herror _ ih =>
    intro offers
    obtain ⟨waits, count, last, hlast, hpart⟩ := ih (offers.push ⟨c :: cs, .failed error⟩)
    refine ⟨waits + 1, count, last, hlast, fun patience limit => ?_⟩
    have hfailed : (⟨reply, patience⟩ : Writer σ).reply (⟨state, offers⟩ : Outlet σ).state (c :: cs)
        = (.failed error, next) := hreply
    exact (writeWithin_of_interrupted hfailed herror (limit + waits)).trans (hpart patience limit)

theorem exists_limit (h : Receptive reply Good) (length : Nat) :
    ∀ {text : List Char} {out : Outlet σ}, text.length ≤ length → Good out.state →
      ∃ bound last, Good last.state ∧ ∀ (patience : σ → Nat) (limit : Nat), bound ≤ limit →
        writeWithin ⟨reply, patience⟩ limit text out = (.ok (), last) := by
  induction length with
  | zero =>
    intro text out hlength hgood
    have htext : text = [] := List.length_eq_zero_iff.mp (Nat.le_zero.mp hlength)
    exact ⟨0, out, hgood, fun patience limit _ => by rw [htext, writeWithin_nil]⟩
  | succ length ih =>
    intro text out hlength hgood
    cases text with
    | nil => exact ⟨0, out, hgood, fun patience limit _ => by rw [writeWithin_nil]⟩
    | cons c cs =>
      obtain ⟨waits, count, next, hnext, hpart⟩ :=
        exists_part (h out.state hgood c cs) out.offers
      have hshort : (cs.drop count).length ≤ length := by
        rw [List.length_drop]
        rw [List.length_cons] at hlength
        omega
      obtain ⟨bound, last, hlast, hrun⟩ := ih hshort hnext
      refine ⟨bound + waits, last, hlast, fun patience limit hlimit => ?_⟩
      obtain ⟨less, rfl⟩ : ∃ less, limit = less + waits := ⟨limit - waits, by omega⟩
      exact (hpart patience less).trans (hrun patience less (by omega))

theorem completes_writeAll (h : Receptive reply Good) {out : Outlet σ} (hgood : Good out.state)
    (text : List Char) :
    out.Completes reply Good text (.ok ()) fun writer => out.writeAll writer text := by
  obtain ⟨bound, last, hlast, hrun⟩ := exists_limit h text.length (Nat.le_refl _) hgood
  have hall : ∀ patience : σ → Nat, (∀ state, bound ≤ patience state) →
      out.writeAll ⟨reply, patience⟩ text = (.ok (), last) :=
    fun patience hpatience => hrun patience _ (Nat.le_add_right_of_le (hpatience out.state))
  refine ⟨bound, last, hlast, ?_, hall⟩
  -- a good result means that the whole text was written
  have hdelivers := delivers_writeAll (⟨reply, fun _ => bound⟩ : Writer σ) out text
  rw [hall (fun _ => bound) (fun _ => Nat.le_refl bound)] at hdelivers
  exact hdelivers.written_of_ok

/-- One run after another: what comes next may depend on the writer. -/
theorem Completes.bind {γ : Type} {out : Outlet σ} {first second : List Char} {value : β}
    {result : γ} {run : Writer σ → β × Outlet σ} (h : out.Completes reply Good first value run)
    (next : Writer σ → β × Outlet σ → γ × Outlet σ)
    (hnext : ∀ middle : Outlet σ, Good middle.state →
      middle.Completes reply Good second result fun writer => next writer (value, middle)) :
    out.Completes reply Good (first ++ second) result fun writer => next writer (run writer) := by
  obtain ⟨bound, middle, hmiddle, hwritten, hrun⟩ := h
  obtain ⟨more, last, hlast, hrest, hlater⟩ := hnext middle hmiddle
  refine ⟨max bound more, last, hlast, ?_, fun patience hpatience => ?_⟩
  · rw [hrest, hwritten, List.append_assoc]
  · have hfirst := hrun patience (fun state => by have := hpatience state; omega)
    have hsecond := hlater patience (fun state => by have := hpatience state; omega)
    dsimp only at hsecond ⊢
    rw [hfirst]
    exact hsecond

/-- A good result lets the next run come. -/
theorem Completes.proceed {out : Outlet σ} {first second : List Char} {result : Except IoError Unit}
    {run : Writer σ → Except IoError Unit × Outlet σ}
    {next : Writer σ → Outlet σ → Except IoError Unit × Outlet σ}
    (h : out.Completes reply Good first (.ok ()) run)
    (hnext : ∀ middle : Outlet σ, Good middle.state →
      middle.Completes reply Good second result fun writer => next writer middle) :
    out.Completes reply Good (first ++ second) result
      fun writer => Outlet.proceed (next writer) (run writer) :=
  h.bind (fun writer outcome => Outlet.proceed (next writer) outcome) hnext

theorem Completes.nil {out : Outlet σ} (hgood : Good out.state) (value : β) :
    out.Completes reply Good [] value fun _ => (value, out) :=
  ⟨0, out, hgood, (List.append_nil _).symm, fun _ _ => rfl⟩

theorem completes_writePieces (h : Receptive reply Good) (texts : List (List Char)) :
    ∀ {out : Outlet σ}, Good out.state →
      out.Completes reply Good texts.flatten (.ok ()) fun writer => out.writePieces writer texts := by
  induction texts with
  | nil => intro out hgood; exact Completes.nil hgood (.ok () : Except IoError Unit)
  | cons text texts ih =>
    intro out hgood
    simp only [writePieces_cons, List.flatten_cons]
    exact (completes_writeAll h hgood text).proceed (fun middle hmiddle => ih hmiddle)

end Outlet

namespace Print

variable {reply : σ → List Char → Reply × σ} {Good : σ → Prop}

theorem completes_int (h : Receptive reply Good) {out : Outlet σ} (hgood : Good out.state)
    (value : Int32) :
    out.Completes reply Good (text value) (.ok ()) fun writer => int writer out value := by
  rw [← flatten_pieces]
  exact Outlet.completes_writePieces h (pieces value) hgood

theorem completes_ints (h : Receptive reply Good) (values : List Int32) :
    ∀ {out : Outlet σ}, Good out.state →
      out.Completes reply Good (values.flatMap text) (values.map fun _ => .ok ())
        fun writer => ints writer out values := by
  induction values with
  | nil => intro out hgood; exact Outlet.Completes.nil hgood []
  | cons value values ih =>
    intro out hgood
    refine (completes_int h hgood value).bind
      (fun writer outcome =>
        (outcome.1 :: (ints writer outcome.2 values).1, (ints writer outcome.2 values).2))
      (fun middle hmiddle => ?_)
    obtain ⟨bound, last, hlast, hwritten, hrun⟩ := ih hmiddle
    refine ⟨bound, last, hlast, hwritten, fun patience hpatience => ?_⟩
    have hrest := hrun patience hpatience
    dsimp only at hrest ⊢
    rw [hrest]
    rfl

end Print

end

end PrependList
