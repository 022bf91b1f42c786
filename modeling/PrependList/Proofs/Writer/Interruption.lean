import PrependList.Print
import PrependList.Writer.Interruption

/-!
# Interruptions cannot be seen

A text is offered again after an interruption, so an interruption costs an offer and nothing else.
Here a script is compared with the same script into which interruptions have been inserted, as many
as one likes and wherever one likes. The two runs drift apart: at any moment the second one has made
as many more offers as interruptions were due by then. `Interrupted` is the relation between them,
and has this shift as a parameter. One offer of the first run is a row of offers of the second
(`Interrupted.offer`); from there the relation goes through the loop, the pieces of a value, and the
values.
-/

namespace PrependList

/-! ## Runs that end -/

/-- The result is no interruption. -/
def Ended (result : Except IoError Unit) : Prop :=
  ∀ error, result = .error error → error.isInterruption = false

theorem ended_ok : Ended (.ok ()) := fun _ h => by cases h

theorem not_ended_impatient : ¬ Ended (.error .impatient) :=
  fun h => absurd (h _ rfl) (by decide)

/-- What there is still to offer of the text after the reply, or the error that ends it. -/
def Reply.remains (text : List Char) : Reply → Except IoError (List Char)
  | took 0 => .error .nothingTaken
  | took (count + 1) => .ok (text.drop (count + 1))
  | failed error => if error.isInterruption then .ok text else .error error

namespace Reply

variable {reply : Reply} {text rest : List Char} {error cause : IoError}

theorem remains_failed_ok (h : (failed error).remains text = .ok rest) :
    error.isInterruption = true ∧ rest = text := by
  by_cases hinterrupted : error.isInterruption = true
  · rw [remains, if_pos hinterrupted] at h
    exact ⟨hinterrupted, (Except.ok.inj h).symm⟩
  · rw [remains, if_neg hinterrupted] at h
    cases h

theorem remains_failed_error (h : (failed error).remains text = .error cause) :
    ¬ error.isInterruption = true ∧ cause = error := by
  by_cases hinterrupted : error.isInterruption = true
  · rw [remains, if_pos hinterrupted] at h
    cases h
  · rw [remains, if_neg hinterrupted] at h
    exact ⟨hinterrupted, (Except.error.inj h).symm⟩

theorem ended_of_remains (h : reply.remains text = .error error) : Ended (.error error) := by
  intro other hother
  cases hother
  cases reply with
  | took count =>
    cases count with
    | zero => cases h; rfl
    | succ count => cases h
  | failed cause =>
    obtain ⟨hinterrupted, rfl⟩ := remains_failed_error h
    exact Bool.not_eq_true _ ▸ hinterrupted

end Reply

namespace Outlet

section

variable {σ : Type} {writer : Writer σ} {out : Outlet σ} {text : List Char} {c : Char}
  {cs rest : List Char} {reply : Reply} {state : σ} {error : IoError}

@[simp] theorem writeWithin_nil (writer : Writer σ) (limit : Nat) (out : Outlet σ) :
    writeWithin writer limit [] out = (.ok (), out) := by
  cases limit with
  | zero => rfl
  | succ limit => rfl

theorem write_eq (h : writer.reply out.state text = (reply, state)) :
    out.write writer text = (reply, ⟨state, out.offers.push ⟨text, reply⟩⟩) := by
  rw [write, h]

/-- **One offer**: the loop goes on with what remains, if any may be offered again. -/
theorem writeWithin_of_rest (h : writer.reply out.state (c :: cs) = (reply, state))
    (hrest : reply.remains (c :: cs) = .ok rest) (limit : Nat) :
    writeWithin writer (limit + 1) (c :: cs) out
      = writeWithin writer limit rest ⟨state, out.offers.push ⟨c :: cs, reply⟩⟩ := by
  rw [writeWithin, write_eq h]
  cases reply with
  | took count =>
    cases count with
    | zero => cases hrest
    | succ count => cases hrest; rfl
  | failed error =>
    obtain ⟨hinterrupted, rfl⟩ := Reply.remains_failed_ok hrest
    exact if_pos hinterrupted

/-- Otherwise it ends. -/
theorem writeWithin_of_error (h : writer.reply out.state (c :: cs) = (reply, state))
    (herror : reply.remains (c :: cs) = .error error) (limit : Nat) :
    writeWithin writer (limit + 1) (c :: cs) out
      = (.error error, ⟨state, out.offers.push ⟨c :: cs, reply⟩⟩) := by
  rw [writeWithin, write_eq h]
  cases reply with
  | took count =>
    cases count with
    | zero => cases herror; rfl
    | succ count => cases herror
  | failed cause =>
    obtain ⟨hinterrupted, rfl⟩ := Reply.remains_failed_error herror
    exact if_neg hinterrupted

theorem writeWithin_of_interrupted (h : writer.reply out.state (c :: cs) = (.failed error, state))
    (herror : error.isInterruption = true) (limit : Nat) :
    writeWithin writer (limit + 1) (c :: cs) out
      = writeWithin writer limit (c :: cs) ⟨state, out.offers.push ⟨c :: cs, .failed error⟩⟩ :=
  writeWithin_of_rest h (if_pos herror) limit

/-- **More patience changes nothing about a text that has ended.** -/
theorem writeWithin_of_le (writer : Writer σ) (limit : Nat) :
    ∀ {more : Nat} {text : List Char} {out : Outlet σ}, limit ≤ more →
      Ended (writeWithin writer limit text out).1 →
      writeWithin writer more text out = writeWithin writer limit text out := by
  induction limit with
  | zero =>
    intro more text out _ h
    cases text with
    | nil => rw [writeWithin_nil, writeWithin_nil]
    | cons c cs => exact absurd h not_ended_impatient
  | succ limit ih =>
    intro more text out hle h
    obtain ⟨less, rfl⟩ : ∃ less, more = less + 1 := ⟨more - 1, by omega⟩
    have hless : limit ≤ less := by omega
    cases text with
    | nil => rfl
    | cons c cs =>
      rcases hreply : writer.reply out.state (c :: cs) with ⟨reply, state⟩
      cases hrest : reply.remains (c :: cs) with
      | error error => rw [writeWithin_of_error hreply hrest, writeWithin_of_error hreply hrest]
      | ok rest =>
        rw [writeWithin_of_rest hreply hrest] at h ⊢
        rw [writeWithin_of_rest hreply hrest]
        exact ih hless h

end

end Outlet

/-! ## Scripts without a limited room -/

namespace Script

variable {script : Script}

theorem room_after (h : script.room = none) (count : Nat) : (script.after count).room = none := by
  rw [after, h]
  rfl

/-- The act alone decides, and is used up. -/
theorem reply_of_room_none (h : script.room = none) (text : List Char) :
    script.reply text = (script.act.reply text.length, script.after 0) := by
  have hafter : ∀ count, script.after count = script.after 0 := by
    intro count
    rw [after, after, h]
    rfl
  rw [reply, fits, h, Option.all_none, if_pos rfl]
  cases script.act.reply text.length with
  | took count => exact congrArg (Prod.mk _) (hafter count)
  | failed error => rfl

theorem after_push (script : Script) (act : Act) : (script.push act).after 0 = script := by
  obtain ⟨acts, rest, room⟩ := script
  cases room with
  | none => rfl
  | some room => rfl

theorem room_delayed (script : Script) (gap : List Interruption) :
    (script.delayed gap).room = script.room := by
  induction gap with
  | nil => rfl
  | cons interruption gap ih => exact ih

theorem room_interrupted (gaps : Gaps) :
    ∀ {script : Script}, script.room = none → (script.interrupted gaps).room = none := by
  induction gaps with
  | nil => intro script h; exact h
  | cons gap gaps ih =>
    intro script h
    rw [interrupted, room_delayed]
    exact ih (room_after h 0)

theorem length_acts_delayed (script : Script) (gap : List Interruption) :
    (script.delayed gap).acts.length = gap.length + script.acts.length := by
  induction gap with
  | nil => rw [List.length_nil, Nat.zero_add]; rfl
  | cons interruption gap ih =>
    show (script.delayed gap).acts.length + 1 = _
    rw [ih, List.length_cons, Nat.add_right_comm]

/-- The inserted interruptions are among the listed acts. -/
theorem length_acts_interrupted (gaps : Gaps) :
    ∀ script : Script,
      script.acts.length + gaps.flatten.length ≤ (script.interrupted gaps).acts.length := by
  induction gaps with
  | nil => intro script; exact Nat.le_refl _
  | cons gap gaps ih =>
    intro script
    have hrest := ih (script.after 0)
    have hacts : (script.after 0).acts.length = script.acts.length - 1 := List.length_tail
    rw [interrupted, length_acts_delayed, push, List.length_cons, List.flatten_cons,
      List.length_append]
    omega

end Script

namespace Outlet

variable {gaps : Gaps} {out noisy : Outlet Script}

/-- Interruptions that come first are waited out, at one offer of the text for each. -/
theorem writeWithin_delayed (gap : List Interruption) {script : Script} (h : script.room = none)
    (limit : Nat) (c : Char) (cs : List Char) :
    ∀ offers : Array Offer,
      writeWithin Script.writer (gap.length + limit) (c :: cs) ⟨script.delayed gap, offers⟩
        = writeWithin Script.writer limit (c :: cs)
          ⟨script, offers ++ (gap.map (Interruption.offer (c :: cs))).toArray⟩ := by
  induction gap with
  | nil =>
    intro offers
    rw [List.length_nil, Nat.zero_add, List.map_nil]
    simp [Script.delayed]
  | cons interruption gap ih =>
    intro offers
    have hroom : ((script.delayed gap).push interruption.act).room = none :=
      (script.room_delayed gap).trans h
    have hreply : Script.writer.reply ((script.delayed gap).push interruption.act) (c :: cs)
        = (.failed interruption.error, script.delayed gap) := by
      show Script.reply _ _ = _
      rw [Script.reply_of_room_none hroom, Script.after_push]
      rfl
    show writeWithin _ _ _ ⟨(script.delayed gap).push interruption.act, offers⟩ = _
    rw [List.length_cons, Nat.add_right_comm,
      writeWithin_of_interrupted hreply interruption.interrupts, ih]
    simp [Interruption.offer]

/-- The second outlet has seen what the first has seen, and the interruptions that were due by then.
Its script still has those that are due later. -/
structure Interrupted (gaps : Gaps) (out noisy : Outlet Script) : Prop where
  room : out.state.room = none
  state : noisy.state = out.state.interrupted (gaps.drop out.offers.size)
  offers : noisy.offers.toList = weave gaps out.offers.toList

theorem Interrupted.fresh (gaps : Gaps) {script : Script} (h : script.room = none) :
    Interrupted gaps (fresh script) (fresh (script.interrupted gaps)) where
  room := h
  state := rfl
  offers := rfl

/-- The second run ended like the first, but for the interruptions. -/
structure Mirrors {β : Type} (gaps : Gaps) (outcome noisy : β × Outlet Script) : Prop where
  result : noisy.1 = outcome.1
  outlet : Interrupted gaps outcome.2 noisy.2

theorem Mirrors.proceed {next : Outlet Script → Except IoError Unit × Outlet Script}
    {outcome other : Except IoError Unit × Outlet Script}
    (h : Ended outcome.1 → Mirrors gaps outcome other)
    (hnext : ∀ {out noisy : Outlet Script}, Interrupted gaps out noisy → Ended (next out).1 →
      Mirrors gaps (next out) (next noisy))
    (hended : Ended (Outlet.proceed next outcome).1) :
    Mirrors gaps (Outlet.proceed next outcome) (Outlet.proceed next other) := by
  obtain ⟨result, out⟩ := outcome
  obtain ⟨result', noisy⟩ := other
  -- the first text has ended, whether or not others come after it
  have hfirst : Ended result := by
    cases result with
    | ok _ => exact ended_ok
    | error error => exact hended
  obtain ⟨hresult, hout⟩ := h hfirst
  have hsame : result' = result := hresult
  subst hsame
  cases result' with
  | ok _ => exact hnext hout hended
  | error error => exact ⟨rfl, hout⟩

theorem Interrupted.written (h : Interrupted gaps out noisy) : noisy.written = out.written := by
  rw [Outlet.written, h.offers, flatMap_taken_weave]
  rfl

theorem write_of_room_none (h : out.state.room = none) (text : List Char) :
    out.write Script.writer text
      = (out.state.act.reply text.length, ⟨out.state.after 0,
          out.offers.push ⟨text, out.state.act.reply text.length⟩⟩) := by
  rw [write, show Script.writer.reply out.state text = _ from Script.reply_of_room_none h text]

/-- Both outlets are offered the same text, and the second one has waited out what was due. -/
theorem interrupted_write {middle : Outlet Script} (text : List Char)
    (hroom : out.state.room = none) (hmiddle : middle.state.room = none)
    (hact : middle.state.act = out.state.act)
    (hafter : middle.state.after 0
      = (out.state.after 0).interrupted (gaps.drop (out.offers.size + 1)))
    (hoffers : middle.offers.toList = weave gaps out.offers.toList
      ++ ((gaps.drop out.offers.size).headD []).map (Interruption.offer text)) :
    Mirrors gaps (out.write Script.writer text) (middle.write Script.writer text) := by
  rw [write_of_room_none hroom, write_of_room_none hmiddle, hact]
  refine ⟨rfl, Script.room_after hroom 0, ?_, ?_⟩
  · show middle.state.after 0 = _
    rw [hafter, Array.size_push]
  · show (middle.offers.push _).toList = weave gaps (out.offers.push _).toList
    rw [Array.toList_push, Array.toList_push, weave_concat, hoffers, List.append_assoc]
    rfl

/-- **One offer is a row of offers**: the interruptions that are due, and then the same reply. -/
theorem Interrupted.offer (h : Interrupted gaps out noisy) (c : Char) (cs : List Char) :
    ∃ (gap : List Interruption) (middle : Outlet Script),
      gap.length + (gaps.drop (out.offers.size + 1)).flatten.length
          = (gaps.drop out.offers.size).flatten.length
        ∧ (∀ limit, writeWithin Script.writer (gap.length + limit) (c :: cs) noisy
            = writeWithin Script.writer limit (c :: cs) middle)
        ∧ Mirrors gaps (out.write Script.writer (c :: cs))
            (middle.write Script.writer (c :: cs)) := by
  obtain ⟨hroom, hstate, hoffers⟩ := h
  have hlater : gaps.drop (out.offers.size + 1) = (gaps.drop out.offers.size).tail :=
    List.tail_drop.symm
  cases hdue : gaps.drop out.offers.size with
  | nil =>
    -- no more interruptions are due, now or later, and the scripts are the same
    rw [hdue] at hstate hlater
    have hsame : noisy.state = out.state := hstate
    have hwrite := interrupted_write (c :: cs) hroom (hsame ▸ hroom) (congrArg _ hsame)
      (by rw [hsame, hlater]; rfl) (by rw [hdue, hoffers]; exact (List.append_nil _).symm)
    refine ⟨[], noisy, ?_, fun limit => ?_, hwrite⟩
    · rw [hlater]
      rfl
    · rw [List.length_nil, Nat.zero_add]
  | cons gap later =>
    rw [hdue] at hstate hlater
    rw [hlater]
    have hpushed : (((out.state.after 0).interrupted later).push out.state.act).room = none :=
      Script.room_interrupted later (Script.room_after hroom 0)
    refine ⟨gap, ⟨((out.state.after 0).interrupted later).push out.state.act,
        noisy.offers ++ (gap.map (Interruption.offer (c :: cs))).toArray⟩, ?_, fun limit => ?_,
      interrupted_write (c :: cs) hroom hpushed rfl ?_ ?_⟩
    · rw [List.flatten_cons, List.length_append]
      rfl
    · obtain ⟨state, offers⟩ := noisy
      subst hstate
      exact writeWithin_delayed gap hpushed limit c cs offers
    · rw [hlater]
      exact Script.after_push _ _
    · rw [hdue, ← hoffers]
      simp

/-- **Interruptions in a text cannot be seen**, if the other run may make as many more offers. -/
theorem Interrupted.writeWithin (limit : Nat) :
    ∀ {text : List Char} {out noisy : Outlet Script} {more : Nat}, Interrupted gaps out noisy →
      Ended (writeWithin Script.writer limit text out).1 →
      limit + (gaps.drop out.offers.size).flatten.length ≤ more →
      Mirrors gaps (writeWithin Script.writer limit text out)
        (writeWithin Script.writer more text noisy) := by
  induction limit with
  | zero =>
    intro text out noisy more h hended _
    cases text with
    | nil => rw [writeWithin_nil, writeWithin_nil]; exact ⟨rfl, h⟩
    | cons c cs => exact absurd hended not_ended_impatient
  | succ limit ih =>
    intro text out noisy more h hended hmore
    cases text with
    | nil => rw [writeWithin_nil, writeWithin_nil]; exact ⟨rfl, h⟩
    | cons c cs =>
      obtain ⟨gap, middle, hgap, hwait, hreply, hnext⟩ := h.offer c cs
      obtain ⟨rest, rfl⟩ : ∃ rest, more = gap.length + (rest + 1) :=
        ⟨more - gap.length - 1, by omega⟩
      have hrest : limit + (gaps.drop (out.offers.size + 1)).flatten.length ≤ rest := by omega
      rcases hone : Script.writer.reply out.state (c :: cs) with ⟨reply, state⟩
      rcases hother : Script.writer.reply middle.state (c :: cs) with ⟨reply', state'⟩
      rw [write_eq hone, write_eq hother] at hreply hnext
      have hsame : reply' = reply := hreply
      subst hsame
      have hsize : (out.offers.push ⟨c :: cs, reply'⟩).size = out.offers.size + 1 :=
        Array.size_push _
      rw [hwait]
      cases hremains : reply'.remains (c :: cs) with
      | error error =>
        rw [writeWithin_of_error hone hremains, writeWithin_of_error hother hremains]
        exact ⟨rfl, hnext⟩
      | ok left =>
        rw [writeWithin_of_rest hone hremains] at hended ⊢
        rw [writeWithin_of_rest hother hremains]
        refine ih hnext hended ?_
        rw [hsize]
        exact hrest

theorem Interrupted.writeAll (h : Interrupted gaps out noisy) {text : List Char}
    (hended : Ended (out.writeAll Script.writer text).1) :
    Mirrors gaps (out.writeAll Script.writer text) (noisy.writeAll Script.writer text) := by
  refine h.writeWithin _ hended ?_
  have hlength := Script.length_acts_interrupted (gaps.drop out.offers.size) out.state
  rw [← h.state] at hlength
  show out.state.acts.length + text.length + _ ≤ noisy.state.acts.length + text.length
  omega

theorem Interrupted.writePieces (texts : List (List Char)) :
    ∀ {out noisy : Outlet Script}, Interrupted gaps out noisy →
      Ended (out.writePieces Script.writer texts).1 →
      Mirrors gaps (out.writePieces Script.writer texts)
        (noisy.writePieces Script.writer texts) := by
  induction texts with
  | nil => intro out noisy h _; exact ⟨rfl, h⟩
  | cons text texts ih =>
    intro out noisy h hended
    rw [writePieces_cons] at hended ⊢
    exact Mirrors.proceed h.writeAll (fun hmiddle => ih hmiddle) hended

end Outlet

/-! ## Values -/

namespace Print

variable {gaps : Gaps}

theorem mirrors_int {out noisy : Outlet Script} (h : Outlet.Interrupted gaps out noisy)
    {value : Int32} (hended : Ended (int Script.writer out value).1) :
    Outlet.Mirrors gaps (int Script.writer out value) (int Script.writer noisy value) :=
  h.writePieces (pieces value) hended

/-- **Values that are printed one after another**, whatever comes of each. -/
theorem mirrors_ints (values : List Int32) :
    ∀ {out noisy : Outlet Script}, Outlet.Interrupted gaps out noisy →
      (∀ result ∈ (ints Script.writer out values).1, Ended result) →
      Outlet.Mirrors gaps (ints Script.writer out values) (ints Script.writer noisy values) := by
  induction values with
  | nil => intro out noisy h _; exact ⟨rfl, h⟩
  | cons value values ih =>
    intro out noisy h hended
    rw [ints] at hended ⊢
    rw [ints]
    obtain ⟨hresult, hmiddle⟩ := mirrors_int h (hended _ List.mem_cons_self)
    obtain ⟨hresults, hlast⟩ :=
      ih hmiddle (fun result hmem => hended _ (List.mem_cons_of_mem _ hmem))
    refine ⟨?_, hlast⟩
    show _ :: _ = _ :: _
    rw [hresult, hresults]

end Print

end PrependList
