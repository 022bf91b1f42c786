import PrependList.Proofs.Writer.Conclusion
import PrependList.Proofs.Writer.Delivery
import PrependList.Proofs.Writer.Interruption
import PrependList.Writer.Script

/-!
# Offers stay aligned with values

Values that are printed one after another leave one row of offers, and one text made of what was
taken of them. A value that fails may leave its blank or its sign behind, and the writer remembers
that and goes on to the next value. Still the row and the text can be divided among the values: each
has offers of its own, at least one, and what these have taken is a first part of its text.

An `Entry` is the share of one value. For one value it is put together from what was delivered and
from how its offers concluded (`exists_entry`); a run is a list of entries by induction over the
values.
-/

namespace PrependList.Print

/-- The share of one value: what was taken of its text, the offers that were made for it, and the
result. -/
structure Entry where
  value : Int32
  taken : List Char
  offers : List Offer
  result : Except IoError Unit

/-- Text, offers and result of the entry belong together. -/
structure Entry.Sound (entry : Entry) : Prop where
  part : entry.taken <+: text entry.value
  /-- The result is good exactly if all of the text was taken. -/
  ok_iff : entry.result = .ok () ↔ entry.taken = text entry.value
  taken_eq : entry.taken = entry.offers.flatMap Offer.taken
  /-- There is a last offer. No other one ends the text, and the last one does exactly if the result
  is an error, which then is its own. -/
  last_ends : ∃ earlier last, entry.offers = earlier ++ [last] ∧ (∀ offer ∈ earlier, offer.Passes)
    ∧ ∀ error, last.Ends error ↔ entry.result = .error error

/-- The second outlet is the first one with the share of the entry added. -/
structure Entry.Leads {σ : Type} (entry : Entry) (out last : Outlet σ) : Prop where
  written : last.written = out.written ++ entry.taken
  offers : last.offers.toList = out.offers.toList ++ entry.offers

/-- Offers of which something was taken, if the last one alone can end the text. -/
theorem exists_last_of_concluded {offers : List Offer} {result : Except IoError Unit}
    (h : Concluded offers result) (hended : Ended result)
    (hoffers : result = .ok () → offers ≠ []) :
    ∃ earlier last, offers = earlier ++ [last] ∧ (∀ offer ∈ earlier, offer.Passes)
      ∧ ∀ error, last.Ends error ↔ result = .error error := by
  cases h with
  | done hpass =>
    obtain ⟨earlier, last, rfl⟩ : ∃ earlier last, offers = earlier ++ [last] := by
      rcases List.eq_nil_or_concat offers with hnil | ⟨earlier, last, hsplit⟩
      · exact absurd hnil (hoffers rfl)
      · exact ⟨earlier, last, by rw [hsplit, List.concat_eq_append]⟩
    have hlast : last.Passes := hpass last (by simp)
    refine ⟨earlier, last, rfl, fun offer hmem => hpass offer (by simp [hmem]), fun error => ?_⟩
    constructor
    · intro hends; exact absurd hends (hlast error)
    · intro hresult; cases hresult
  | impatient _ => exact absurd hended not_ended_impatient
  | @ended earlier last cause hpass hends =>
    refine ⟨earlier, last, rfl, hpass, fun error => ?_⟩
    constructor
    · intro hother; rw [hends.unique hother]
    · intro hresult; exact Except.error.inj hresult ▸ hends

variable {σ : Type} (writer : Writer σ)

/-- **One value has a share**, if its run ends. -/
theorem exists_entry (out : Outlet σ) (value : Int32) (h : Ended (int writer out value).1) :
    ∃ entry : Entry, entry.value = value ∧ entry.result = (int writer out value).1
      ∧ entry.Leads out (int writer out value).2 ∧ entry.Sound := by
  obtain ⟨taken, hpart, hwritten, hok⟩ := delivers_int writer out value
  obtain ⟨offers, hadded, hconcluded⟩ := concludes_int writer out value
  -- what is written is read off the offers, so the added ones have taken the added text
  have htaken : taken = offers.flatMap Offer.taken := by
    have hsplit : (int writer out value).2.written
        = out.written ++ offers.flatMap Offer.taken := by
      rw [Outlet.written, hadded, List.flatMap_append]
      rfl
    rw [hwritten] at hsplit
    exact List.append_cancel_left hsplit
  have hoffers : (int writer out value).1 = .ok () → offers ≠ [] := by
    intro hresult hnil
    rw [hok.mp hresult, hnil] at htaken
    cases htaken
  refine ⟨⟨value, taken, offers, (int writer out value).1⟩, rfl, rfl, ⟨hwritten, hadded⟩, ?_⟩
  exact ⟨hpart, hok, htaken, exists_last_of_concluded hconcluded h hoffers⟩

/--
**Text and offers are divided among the values.**

The values are printed one after another on any writer, whatever comes of each, and the run ends: no
result is an interruption. Then there is a sound entry for each value, in order, with its result; the
text that was taken is that of the entries one after another, and so are the offers.
-/
theorem ints_divided (values : List Int32) :
    ∀ (out : Outlet σ), (∀ result ∈ (ints writer out values).1, Ended result) →
      ∃ entries : List Entry,
        entries.map Entry.value = values
          ∧ entries.map Entry.result = (ints writer out values).1
          ∧ (ints writer out values).2.written = out.written ++ entries.flatMap Entry.taken
          ∧ (ints writer out values).2.offers.toList
            = out.offers.toList ++ entries.flatMap Entry.offers
          ∧ ∀ entry ∈ entries, entry.Sound := by
  induction values with
  | nil =>
    intro out _
    exact ⟨[], rfl, rfl, (List.append_nil _).symm, (List.append_nil _).symm,
      fun entry hentry => absurd hentry List.not_mem_nil⟩
  | cons value values ih =>
    intro out h
    rw [ints] at h ⊢
    obtain ⟨entry, hvalue, hresult, hleads, hsound⟩ :=
      exists_entry writer out value (h _ List.mem_cons_self)
    obtain ⟨entries, hvalues, hresults, hwritten, hoffers, hall⟩ :=
      ih (int writer out value).2 (fun result hmem => h result (List.mem_cons_of_mem _ hmem))
    refine ⟨entry :: entries, ?_, ?_, ?_, ?_, ?_⟩
    · rw [List.map_cons, hvalue, hvalues]
    · rw [List.map_cons, hresult, hresults]
    · -- the share of the first value comes before those of the others
      rw [hwritten, hleads.written, List.append_assoc, List.flatMap_cons]
    · rw [hoffers, hleads.offers, List.append_assoc, List.flatMap_cons]
    · intro other hother
      rcases List.mem_cons.mp hother with rfl | hmem
      · exact hsound
      · exact hall other hmem

/-- The first value fails in its digits, after an interruption. The second one, the least of all,
leaves a blank and a sign behind. The third one is printed. -/
theorem ints_divided_three :
    let script : Script :=
      { acts := [.takeAll, .takeUpTo 1, .fail (.plain .interrupted), .fail (.system .brokenPipe),
          .takeAll, .takeAll, .takeUpTo 0] }
    let run := ints Script.writer (Outlet.fresh script) [12, Int32.minValue, 7]
    run.1 = [.error (.system .brokenPipe), .error .nothingTaken, .ok ()]
      ∧ run.2.written = " 1 - 7".toList
      ∧ ∃ entries : List Entry, entries.map Entry.value = [12, Int32.minValue, 7]
        ∧ entries.map Entry.result = run.1
        ∧ run.2.written = entries.flatMap Entry.taken
        ∧ run.2.offers.toList = entries.flatMap Entry.offers
        ∧ ∀ entry ∈ entries, entry.Sound := by
  intro script run
  have hresults : run.1 = [.error (.system .brokenPipe), .error .nothingTaken, .ok ()] := by rfl
  have hended : ∀ result ∈ run.1, Ended result := by
    intro result hresult error herror
    rw [hresults] at hresult
    simp only [List.mem_cons, List.not_mem_nil, or_false] at hresult
    rcases hresult with rfl | rfl | rfl
    · cases herror; rfl
    · cases herror; rfl
    · cases herror
  exact ⟨hresults, by decide +kernel,
    ints_divided Script.writer [12, Int32.minValue, 7] (Outlet.fresh script) hended⟩

end PrependList.Print
