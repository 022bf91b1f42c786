import PrependList.Print

/-!
# How much of a text was delivered

A writer may take a text in pieces, be interrupted between them, and fail at any point. Whatever it
does, what it took of the text is a first part of it, and the result is good exactly if that part is
the whole. `Delivers` says this of an outcome. It is the invariant of the loop that offers a text
until nothing is left, and it composes: what holds for two texts holds for one after the other, also
if the first of them failed and the second was never offered. So it is carried from single offers to
pieces, from pieces to values, and from values to all values of a walk.

Nothing is assumed of the writer. A writer that is interrupted more often than its patience allows
is one that failed, and what it took before is still a first part of the text.
-/

namespace PrependList

namespace Outlet

variable {σ : Type}

/-- The outcome of offering the text: a first part of it was taken, and the result is good exactly
if that was all of it. -/
def Delivers (out : Outlet σ) (text : List Char) (outcome : Except IoError Unit × Outlet σ) :
    Prop :=
  ∃ taken, taken <+: text ∧ outcome.2.written = out.written ++ taken
    ∧ (outcome.1 = .ok () ↔ taken = text)

variable {out middle last : Outlet σ} {text rest : List Char} {error : IoError}
  {outcome : Except IoError Unit × Outlet σ}

theorem Delivers.nil (out : Outlet σ) : out.Delivers [] (.ok (), out) :=
  ⟨[], List.prefix_rfl, (List.append_nil _).symm, Iff.intro (fun _ => rfl) (fun _ => rfl)⟩

/-- Nothing was taken of a text that is not empty. -/
theorem Delivers.nothing (htext : text ≠ []) (hwritten : last.written = out.written) :
    out.Delivers text (.error error, last) := by
  refine ⟨[], List.nil_prefix, ?_, ?_⟩
  · rw [List.append_nil]
    exact hwritten
  · constructor
    · intro h; cases h
    · intro h; exact absurd h.symm htext

/-- A part that was taken, and an outcome for the rest. -/
theorem Delivers.after (hwritten : middle.written = out.written ++ text)
    (h : middle.Delivers rest outcome) : out.Delivers (text ++ rest) outcome := by
  obtain ⟨taken, hpart, htaken, hresult⟩ := h
  refine ⟨text ++ taken, (List.prefix_append_right_inj text).mpr hpart, ?_, ?_⟩
  · rw [htaken, hwritten, List.append_assoc]
  · rw [hresult, List.append_cancel_left_eq]

/-- What was written if the result is good. -/
theorem Delivers.written_of_ok (h : out.Delivers text (.ok (), last)) :
    last.written = out.written ++ text := by
  obtain ⟨taken, _, htaken, hresult⟩ := h
  rw [htaken, hresult.mp rfl]

theorem Delivers.append (h : out.Delivers text (.ok (), middle))
    (hrest : middle.Delivers rest outcome) : out.Delivers (text ++ rest) outcome :=
  Delivers.after h.written_of_ok hrest

/-- What was written if it is not: less than the text. -/
theorem Delivers.written_of_error (h : out.Delivers text (.error error, last)) :
    ∃ taken, taken <+: text ∧ last.written = out.written ++ taken
      ∧ taken.length < text.length := by
  obtain ⟨taken, hpart, htaken, hresult⟩ := h
  refine ⟨taken, hpart, htaken, Nat.lt_of_le_of_ne hpart.length_le (fun hlen => ?_)⟩
  -- a part as long as the text is all of it, and then the result is good
  have hok := hresult.mpr (hpart.eq_of_length hlen)
  cases hok

/-- After a failure the rest is not offered any more. -/
theorem Delivers.append_of_error (h : out.Delivers text (.error error, last)) :
    out.Delivers (text ++ rest) (.error error, last) := by
  obtain ⟨taken, hpart, htaken, hlen⟩ := h.written_of_error
  refine ⟨taken, hpart.trans (List.prefix_append text rest), htaken, ?_⟩
  constructor
  · intro hok; cases hok
  · intro heq
    have hall := congrArg List.length heq
    rw [List.length_append] at hall
    omega

/-- The rest is offered if the first text was taken. -/
theorem Delivers.proceed {next : Outlet σ → Except IoError Unit × Outlet σ}
    (h : out.Delivers text outcome)
    (hnext : ∀ middle : Outlet σ, middle.Delivers rest (next middle)) :
    out.Delivers (text ++ rest) (Outlet.proceed next outcome) := by
  obtain ⟨result, middle⟩ := outcome
  cases result with
  | ok _ => exact h.append (hnext middle)
  | error error => exact h.append_of_error

/-! ## One text -/

variable (writer : Writer σ)

/-- **The loop delivers**, however many offers it may still make. -/
theorem delivers_writeWithin (limit : Nat) :
    ∀ (text : List Char) (out : Outlet σ),
      out.Delivers text (writeWithin writer limit text out) := by
  induction limit with
  | zero =>
    intro text out
    cases text with
    | nil => exact Delivers.nil out
    | cons c cs =>
      -- no offer is left, but something to offer is
      exact Delivers.nothing (List.cons_ne_nil c cs) rfl
  | succ limit ih =>
    intro text out
    cases text with
    | nil => exact Delivers.nil out
    | cons c cs =>
      have hwritten := written_write writer out (c :: cs)
      rw [writeWithin]
      rcases hwrite : out.write writer (c :: cs) with ⟨reply, last⟩
      rw [hwrite] at hwritten
      cases reply with
      | took count =>
        cases count with
        | zero =>
          -- taking nothing ends the loop
          refine Delivers.nothing (List.cons_ne_nil c cs) (hwritten.trans ?_)
          exact List.append_nil out.written
        | succ count =>
          -- the text is what was taken and what is offered next
          have hparts : Offer.taken ⟨c :: cs, .took (count + 1)⟩ ++ cs.drop count = c :: cs :=
            List.take_append_drop (count + 1) (c :: cs)
          have h := Delivers.after hwritten (ih (cs.drop count) last)
          rwa [hparts] at h
      | failed error =>
        have hsame : last.written = out.written := hwritten.trans (List.append_nil out.written)
        show out.Delivers (c :: cs) (if error.isInterruption then _ else _)
        by_cases hinterrupted : error.isInterruption = true
        · -- the same text is offered again, to a writer that has taken nothing of it
          rw [if_pos hinterrupted]
          obtain ⟨taken, hpart, htaken, hresult⟩ := ih (c :: cs) last
          exact ⟨taken, hpart, by rw [htaken, hsame], hresult⟩
        · rw [if_neg hinterrupted]
          exact Delivers.nothing (List.cons_ne_nil c cs) hsame

theorem delivers_writeAll (out : Outlet σ) (text : List Char) :
    out.Delivers text (out.writeAll writer text) :=
  delivers_writeWithin writer _ text out

/-! ## Pieces and values -/

theorem delivers_writePieces (texts : List (List Char)) :
    ∀ out : Outlet σ, out.Delivers texts.flatten (out.writePieces writer texts) := by
  induction texts with
  | nil => intro out; exact Delivers.nil out
  | cons text texts ih =>
    intro out
    rw [writePieces_cons, List.flatten_cons]
    exact (delivers_writeAll writer out text).proceed ih

end Outlet

namespace Print

variable {σ : Type} (writer : Writer σ)

theorem delivers_int (out : Outlet σ) (value : Int32) :
    out.Delivers (text value) (int writer out value) := by
  rw [← flatten_pieces]
  exact Outlet.delivers_writePieces writer (pieces value) out

/-- After a failure the remaining values pass. -/
theorem foldl_unlessFailed_error (values : List Int32) (error : IoError) (out : Outlet σ) :
    values.foldl (unlessFailed writer) (.error error, out) = (.error error, out) := by
  induction values with
  | nil => rfl
  | cons value values ih => exact ih

/-- **Printing up to the first failure delivers the texts of all values as one.** -/
theorem delivers_foldl_unlessFailed (values : List Int32) :
    ∀ out : Outlet σ,
      out.Delivers (values.flatMap text) (values.foldl (unlessFailed writer) (.ok (), out)) := by
  induction values with
  | nil => intro out; exact Outlet.Delivers.nil out
  | cons value values ih =>
    intro out
    rw [List.foldl_cons, List.flatMap_cons]
    have h := delivers_int writer out value
    show out.Delivers _ (values.foldl (unlessFailed writer) (int writer out value))
    rcases hint : int writer out value with ⟨result, middle⟩
    rw [hint] at h
    cases result with
    | ok _ => exact h.append (ih middle)
    | error error =>
      -- the fold carries the failure past the other values
      rw [foldl_unlessFailed_error]
      exact h.append_of_error

end Print

end PrependList
