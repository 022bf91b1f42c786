import Mathlib.Data.List.SplitBy
import PrependList.Proofs.Text.Reading
import PrependList.Proofs.Writer.Acceptance

/-!
# Printing loses nothing

What was printed can be read back: the text is cut in front of each blank, and every part is a blank
and a numeral. No numeral has a blank in it, so the cuts fall between the values and nowhere else, and
a numeral is read as the one number that is written so.

The reader accepts printed texts only (`read_eq_some_iff`). So a text stands for one list of values,
and a list of values has one text (`ints_invertible`).
-/

namespace PrependList.Print

/-- The text cut in front of each blank. What stands before the first blank is a part too, unless it
is empty. -/
def cut (cs : List Char) : List (List Char) := cs.splitBy fun _ c => c != ' '

/-- The value that is printed in this way. -/
def word? : List Char → Option Int32
  | ' ' :: digits => Numeral.signed? digits
  | _ => none

/-- The values that are printed in this way. -/
def read (cs : List Char) : Option (List Int32) := (cut cs).mapM word?

theorem word?_eq_some_iff (cs : List Char) (value : Int32) :
    word? cs = some value ↔ cs = text value := by
  rw [text]
  constructor
  · intro h
    unfold word? at h
    split at h
    · rw [Numeral.signed?_eq_some_iff.mp h]
    · cases h
  · rintro rfl
    exact Numeral.signed?_eq_some_iff.mpr rfl

/-! ## Where a text is cut -/

theorem blank_not_mem_signed (value : Int32) : ' ' ∉ Numeral.signed value := by
  intro h
  rw [Numeral.signed, List.mem_append] at h
  rcases h with hsign | hdigit
  · rw [Numeral.sign] at hsign
    split at hsign
    · exact absurd (List.mem_singleton.mp hsign) (by decide)
    · cases hsign
  · exact absurd (Numeral.isDigit_decimal hdigit) (by decide)

/-- Behind its first character the text of a value has no blank. -/
theorem isChain_text (value : Int32) : (text value).IsChain fun _ c => (c != ' ') = true := by
  have hdigits : ∀ c ∈ Numeral.signed value, (c != ' ') = true :=
    fun c hc => bne_iff_ne.mpr fun h => blank_not_mem_signed value (h ▸ hc)
  have hpairs : (Numeral.signed value).Pairwise fun _ c => (c != ' ') = true :=
    List.pairwise_of_forall_mem_list fun _ _ c hc => hdigits c hc
  exact (List.pairwise_cons.mpr ⟨hdigits, hpairs⟩).isChain

/-- **The text of a list is cut into the texts of its values.** -/
theorem cut_flatMap_text (values : List Int32) : cut (values.flatMap text) = values.map text := by
  rw [cut, List.flatMap_def]
  apply List.splitBy_flatten
  · intro h
    obtain ⟨value, -, hvalue⟩ := List.mem_map.mp h
    cases hvalue
  · intro part hpart
    obtain ⟨value, -, rfl⟩ := List.mem_map.mp hpart
    exact isChain_text value
  · -- the next text begins with the blank at which it is cut off
    induction values with
    | nil => exact List.IsChain.nil
    | cons value values ih =>
      cases values with
      | nil => exact List.IsChain.singleton (text value)
      | cons next values =>
        exact List.IsChain.cons_cons ⟨List.cons_ne_nil _ _, List.cons_ne_nil _ _, rfl⟩ ih

/-- **What can be read is what is printed.** -/
theorem read_eq_some_iff {cs : List Char} {values : List Int32} :
    read cs = some values ↔ cs = values.flatMap text := by
  rw [read, mapM_eq_some_iff word?_eq_some_iff]
  constructor
  · intro h
    rw [List.flatMap_def, ← h, cut, List.flatten_splitBy]
  · rintro rfl
    exact cut_flatMap_text values

/-! ## What is printed -/

/--
**Printing is invertible.**

Print values one after another on a writer that accepts everything, in whatever parts. All of them
are printed, and reading gives them back: their text can be read as these values only, and no other
text can. Hence two lists have the same text exactly if they are equal, and the text of two lists one
after the other is their texts one after the other.
-/
theorem ints_invertible {σ : Type} {writer : Writer σ} {Good : σ → Prop} {state : σ}
    (h : writer.Accepts Good) (hgood : Good state) :
    let run := fun values => ints writer (Outlet.fresh state) values
    let printed := fun values => (run values).2.written
    (∀ values, (run values).1 = values.map (fun _ => .ok ()) ∧ read (printed values) = some values)
      ∧ (∀ cs values, read cs = some values ↔ cs = printed values)
      ∧ (∀ values others, printed values = printed others ↔ values = others)
      ∧ ∀ values others, printed (values ++ others) = printed values ++ printed others := by
  intro run printed
  have hruns : ∀ values, (run values).1 = values.map (fun _ => .ok ())
      ∧ printed values = values.flatMap text := by
    intro values
    obtain ⟨last, hlast, hwritten⟩ := exists_ints h values (Outlet.fresh state) hgood
    have hrun : run values = _ := hlast
    have hprinted : printed values = last.written :=
      congrArg (fun outcome => outcome.2.written) hrun
    exact ⟨congrArg Prod.fst hrun, hprinted.trans hwritten⟩
  have hread : ∀ cs values, read cs = some values ↔ cs = printed values := by
    intro cs values
    rw [(hruns values).2]
    exact read_eq_some_iff
  have hback : ∀ values, read (printed values) = some values :=
    fun values => (hread _ values).mpr rfl
  refine ⟨fun values => ⟨(hruns values).1, hback values⟩, hread, fun values others => ?_,
    fun values others => ?_⟩
  · constructor
    · intro hsame
      have hboth : some values = some others := by rw [← hback values, hsame, hback others]
      exact Option.some.inj hboth
    · rintro rfl
      rfl
  · rw [(hruns (values ++ others)).2, (hruns values).2, (hruns others).2, List.flatMap_append]

/-- The least value is read back though its magnitude is no such value, from a writer that takes no more
than three characters at a time. -/
theorem ints_invertible_least :
    let script : Script := { acts := [.takeUpTo 1, .takeAll], rest := .takeUpTo 3 }
    let printed := (ints Script.writer (Outlet.fresh script) [Int32.minValue, 0, 0]).2.written
    script.Unfailing ∧ printed = " -2147483648 0 0".toList
      ∧ read printed = some [Int32.minValue, 0, 0] := by
  intro script printed
  have hgood : script.Unfailing := by
    refine ⟨rfl, fun act hact => ?_, Nat.zero_lt_succ 2⟩
    rcases List.mem_pair.mp hact with rfl | rfl
    · exact Nat.zero_lt_one
    · trivial
  have h := ints_invertible Script.accepts_unfailing hgood
  exact ⟨hgood, by decide +kernel, (h.1 [Int32.minValue, 0, 0]).2⟩

end PrependList.Print
