import PrependList.Print

/-!
# The offer that ends a text

Two replies end a text: a failure that is no interruption, and taking nothing. Every other reply
lets the next offer come. So among the offers that are made for a text, or for many texts up to the
first failure, only the last can be one of these two, and then its error is the result.

`Concluded` says this of a list of offers and a result, and composes along good results. A writer
that is interrupted more often than its patience allows is given up without such an offer; this is
the one other way in which a text fails.
-/

namespace PrependList

/-- The offer ends its text, with this error. -/
inductive Offer.Ends : Offer → IoError → Prop where
  | failure {text : List Char} {error : IoError} :
      error.kind ≠ .interrupted → Ends ⟨text, .failed error⟩ error
  | nothing {text : List Char} :
      Ends ⟨text, .took 0⟩ (.custom .writeZero "failed to write whole buffer")

/-- The offer lets the next one come. -/
def Offer.Passes (offer : Offer) : Prop := ∀ error, ¬ offer.Ends error

/-- The result of these offers: every one passes and the result is good, or the last one ends it.
Between the two stands a writer whose patience ran out. -/
inductive Concluded : List Offer → Except IoError Unit → Prop where
  | done {offers : List Offer} : (∀ offer ∈ offers, offer.Passes) → Concluded offers (.ok ())
  | impatient {offers : List Offer} :
      (∀ offer ∈ offers, offer.Passes) → Concluded offers (.error .impatient)
  | ended {offers : List Offer} {offer : Offer} {error : IoError} :
      (∀ offer ∈ offers, offer.Passes) → offer.Ends error →
        Concluded (offers ++ [offer]) (.error error)

variable {offers first second earlier later : List Offer} {offer : Offer} {error : IoError}
  {result : Except IoError Unit}

theorem Offer.Ends.unique {other : IoError} (h : offer.Ends error) (hother : offer.Ends other) :
    error = other := by
  cases h with
  | failure _ => cases hother with | failure _ => rfl
  | nothing => cases hother with | nothing => rfl

namespace Concluded

theorem nil : Concluded [] (.ok ()) := done (fun _ h => absurd h List.not_mem_nil)

theorem single (h : offer.Ends error) : Concluded [offer] (.error error) :=
  ended (fun _ hmem => absurd hmem List.not_mem_nil) h

/-- Offers that all pass may come before. -/
theorem after (h : ∀ offer ∈ first, offer.Passes) (hsecond : Concluded second result) :
    Concluded (first ++ second) result := by
  have hboth : ∀ rest : List Offer, (∀ offer ∈ rest, offer.Passes) →
      ∀ offer ∈ first ++ rest, offer.Passes := by
    intro rest hrest offer hmem
    rcases List.mem_append.mp hmem with hleft | hright
    · exact h offer hleft
    · exact hrest offer hright
  cases hsecond with
  | done hpass => exact done (hboth _ hpass)
  | impatient hpass => exact impatient (hboth _ hpass)
  | ended hpass hends =>
    rw [← List.append_assoc]
    exact ended (hboth _ hpass) hends

theorem passes_of_ok (h : Concluded offers (.ok ())) : ∀ offer ∈ offers, offer.Passes := by
  cases h with
  | done hpass => exact hpass

/-- **Nothing is offered after an offer that ends, and its error is the result.** -/
theorem of_ends (h : Concluded (earlier ++ offer :: later) result) (hends : offer.Ends error) :
    later = [] ∧ result = .error error := by
  have hmem : offer ∈ earlier ++ offer :: later := by simp
  generalize hall : earlier ++ offer :: later = all at h hmem
  cases h with
  | done hpass => exact absurd hends (hpass offer hmem error)
  | impatient hpass => exact absurd hends (hpass offer hmem error)
  | @ended passed last cause hpass hlast =>
    rcases List.eq_nil_or_concat later with rfl | ⟨middle, other, rfl⟩
    · obtain ⟨-, heq⟩ := List.append_inj' hall rfl
      rw [List.singleton_inj.mp heq] at hends
      exact ⟨rfl, by rw [hends.unique hlast]⟩
    · -- something came after it, so it is one of the offers that pass
      have hsplit : (earlier ++ offer :: middle) ++ [other] = passed ++ [last] := by
        simpa using hall
      obtain ⟨hpassed, -⟩ := List.append_inj' hsplit rfl
      have hmem : offer ∈ passed := by rw [← hpassed]; simp
      exact absurd hends (hpass offer hmem error)

/-- An error is that of the last offer, unless patience ran out. -/
theorem of_error (h : Concluded offers (.error error)) :
    error = .impatient ∨ ∃ earlier last, offers = earlier ++ [last] ∧ last.Ends error := by
  cases h with
  | impatient _ => exact Or.inl rfl
  | ended _ hends => exact Or.inr ⟨_, _, rfl, hends⟩

end Concluded

/-- The offers end at the first one that ends, and so does their result. -/
structure EndsAtFirst (offers : List Offer) (result : Except IoError Unit) : Prop where
  /-- Nothing is offered after it, and its error is the result. -/
  stops : ∀ earlier offer later error, offers = earlier ++ offer :: later → offer.Ends error →
    later = [] ∧ result = .error error
  /-- The result is an error for no other reason, if the writer's patience lasts. -/
  cause : ∀ error, result = .error error →
    error = .impatient ∨ ∃ earlier last, offers = earlier ++ [last] ∧ last.Ends error

theorem Concluded.endsAtFirst (h : Concluded offers result) : EndsAtFirst offers result where
  stops := by
    intro earlier offer later error hoffers hends
    rw [hoffers] at h
    exact h.of_ends hends
  cause := by
    intro error herror
    rw [herror] at h
    exact h.of_error

namespace Outlet

variable {σ : Type} {out middle : Outlet σ} {outcome : Except IoError Unit × Outlet σ}

/-- The outcome has added offers to the outlet, and its result is theirs. -/
def Concludes (out : Outlet σ) (outcome : Except IoError Unit × Outlet σ) : Prop :=
  ∃ added, outcome.2.offers.toList = out.offers.toList ++ added ∧ Concluded added outcome.1

theorem Concludes.nil (out : Outlet σ) : out.Concludes (.ok (), out) :=
  ⟨[], (List.append_nil _).symm, Concluded.nil⟩

/-- After a good result another outcome may follow. -/
theorem Concludes.append (h : out.Concludes (.ok (), middle)) (hrest : middle.Concludes outcome) :
    out.Concludes outcome := by
  obtain ⟨first, hfirst, hpass⟩ := h
  obtain ⟨second, hsecond, hresult⟩ := hrest
  refine ⟨first ++ second, ?_, Concluded.after hpass.passes_of_ok hresult⟩
  rw [hsecond, hfirst, List.append_assoc]

/-- After a failure there is no other outcome. -/
theorem Concludes.proceed {next : Outlet σ → Except IoError Unit × Outlet σ}
    (h : out.Concludes outcome) (hnext : ∀ middle : Outlet σ, middle.Concludes (next middle)) :
    out.Concludes (Outlet.proceed next outcome) := by
  obtain ⟨result, middle⟩ := outcome
  cases result with
  | ok _ => exact h.append (hnext middle)
  | error error => exact h

variable (writer : Writer σ)

/-- The offers after one more. -/
theorem toList_offers_write (out : Outlet σ) (text : List Char) :
    (out.write writer text).2.offers.toList
      = out.offers.toList ++ [⟨text, (out.write writer text).1⟩] := by
  simp [write]

/-- **The loop ends at the first offer that ends**, however many offers it may still make. -/
theorem concludes_writeWithin (limit : Nat) :
    ∀ (text : List Char) (out : Outlet σ), out.Concludes (writeWithin writer limit text out) := by
  induction limit with
  | zero =>
    intro text out
    cases text with
    | nil => exact Concludes.nil out
    | cons c cs =>
      exact ⟨[], (List.append_nil _).symm,
        Concluded.impatient (fun _ h => absurd h List.not_mem_nil)⟩
  | succ limit ih =>
    intro text out
    cases text with
    | nil => exact Concludes.nil out
    | cons c cs =>
      have hadded := toList_offers_write writer out (c :: cs)
      rw [writeWithin]
      rcases hwrite : out.write writer (c :: cs) with ⟨reply, last⟩
      rw [hwrite] at hadded
      -- an offer that passes is followed by the rest of the loop
      have hpassed : ∀ {outcome}, Offer.Passes ⟨c :: cs, reply⟩ → last.Concludes outcome →
          out.Concludes outcome :=
        fun hpass hrest => Concludes.append
          ⟨_, hadded, Concluded.done (fun _ hmem => List.mem_singleton.mp hmem ▸ hpass)⟩ hrest
      cases reply with
      | took count =>
        cases count with
        | zero => exact ⟨_, hadded, Concluded.single Offer.Ends.nothing⟩
        | succ count => exact hpassed (fun _ hends => by cases hends) (ih (cs.drop count) last)
      | failed error =>
        show out.Concludes (if error.isInterruption then _ else _)
        by_cases hinterrupted : error.isInterruption = true
        · rw [if_pos hinterrupted]
          refine hpassed (fun _ hends => ?_) (ih (c :: cs) last)
          cases hends with
          | failure hkind => exact hkind (of_decide_eq_true hinterrupted)
        · rw [if_neg hinterrupted]
          have hkind : error.kind ≠ .interrupted := fun hkind => hinterrupted (decide_eq_true hkind)
          exact ⟨_, hadded, Concluded.single (Offer.Ends.failure hkind)⟩

theorem concludes_writeAll (out : Outlet σ) (text : List Char) :
    out.Concludes (out.writeAll writer text) :=
  concludes_writeWithin writer _ text out

theorem concludes_writePieces (texts : List (List Char)) :
    ∀ out : Outlet σ, out.Concludes (out.writePieces writer texts) := by
  induction texts with
  | nil => intro out; exact Concludes.nil out
  | cons text texts ih =>
    intro out
    rw [writePieces_cons]
    exact (concludes_writeAll writer out text).proceed ih

end Outlet

namespace Print

variable {σ : Type} (writer : Writer σ)

theorem concludes_int (out : Outlet σ) (value : Int32) : out.Concludes (int writer out value) :=
  Outlet.concludes_writePieces writer (pieces value) out

end Print

end PrependList
