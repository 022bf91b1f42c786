import PrependList.Writer.Script

/-!
# Interruptions

Interruptions can be inserted into a script anywhere, also behind the listed acts. `Gaps` says where,
by the number of the offer that they delay, and `Script.interrupted` inserts them.

What is expected of the offers is said in the same way: an offer that is delayed has offers of the
same text before it, one for each interruption (`weave`). Since every offer uses up one act, the
places of these offers are known, and they can be removed again (`unweave`).
-/

namespace PrependList

/-- A failure after which the text is worth offering again. -/
structure Interruption where
  error : IoError
  interrupts : error.isInterruption = true

namespace Interruption

def act (interruption : Interruption) : Act := .fail interruption.error

/-- The offer of a text that is interrupted. -/
def offer (text : List Char) (interruption : Interruption) : Offer :=
  ⟨text, .failed interruption.error⟩

end Interruption

/-- Interruptions to be inserted: those at place `i` come before the act of the offer that has the
number `i`, from zero. -/
abbrev Gaps := List (List Interruption)

namespace Script

/-- The script with one more act in front. -/
def push (script : Script) (act : Act) : Script := { script with acts := act :: script.acts }

/-- The script with interruptions in front. -/
def delayed (script : Script) (gap : List Interruption) : Script :=
  gap.foldr (fun interruption script => script.push interruption.act) script

/-- The script with the interruptions inserted. Acts behind the listed ones are written out as far
as they have interruptions before them. -/
def interrupted (script : Script) : Gaps → Script
  | [] => script
  | gap :: gaps => (((script.after 0).interrupted gaps).push script.act).delayed gap

end Script

/-- Puts the interrupted offers before the offers that they delay. -/
def weave (gaps : Gaps) : List Offer → List Offer
  | [] => []
  | offer :: offers =>
    (gaps.headD []).map (Interruption.offer offer.text) ++ offer :: weave gaps.tail offers

/-- Removes the offers that were answered by inserted acts. Every offer uses up one act, so they are
the first ones of each row. -/
def unweave : Gaps → List Offer → List Offer
  | [], offers => offers
  | gap :: gaps, offers =>
    match offers.drop gap.length with
    | [] => []
    | offer :: offers => offer :: unweave gaps offers

theorem weave_nil (offers : List Offer) : weave [] offers = offers := by
  induction offers with
  | nil => rfl
  | cons offer offers ih => exact congrArg (List.cons offer) ih

theorem unweave_weave (offers : List Offer) :
    ∀ gaps : Gaps, unweave gaps (weave gaps offers) = offers := by
  induction offers with
  | nil =>
    intro gaps
    cases gaps with
    | nil => rfl
    | cons gap gaps => rw [weave, unweave, List.drop_nil]
  | cons offer offers ih =>
    intro gaps
    cases gaps with
    | nil => rw [weave_nil, unweave]
    | cons gap gaps =>
      have hlength : gap.length = (gap.map (Interruption.offer offer.text)).length := by
        rw [List.length_map]
      rw [weave, unweave, List.headD_cons, hlength, List.drop_left]
      exact congrArg (List.cons offer) (ih gaps)

theorem weave_concat (offer : Offer) (offers : List Offer) :
    ∀ gaps : Gaps, weave gaps (offers ++ [offer])
      = weave gaps offers
        ++ (((gaps.drop offers.length).headD []).map (Interruption.offer offer.text) ++ [offer]) := by
  induction offers with
  | nil => intro gaps; rfl
  | cons first offers ih =>
    intro gaps
    rw [List.cons_append, weave, weave, ih, List.drop_tail, List.append_assoc, List.length_cons]
    rfl

/-- What was taken is the same. -/
theorem flatMap_taken_weave (offers : List Offer) :
    ∀ gaps : Gaps, (weave gaps offers).flatMap Offer.taken = offers.flatMap Offer.taken := by
  induction offers with
  | nil => intro gaps; rfl
  | cons offer offers ih =>
    intro gaps
    have hnothing : ∀ gap : List Interruption,
        (gap.map (Interruption.offer offer.text)).flatMap Offer.taken = [] := by
      intro gap
      induction gap with
      | nil => rfl
      | cons interruption gap ih => exact ih
    rw [weave, List.flatMap_append, hnothing, List.nil_append, List.flatMap_cons, ih,
      List.flatMap_cons]

end PrependList
