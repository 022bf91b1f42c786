import PrependList.Proofs.Chain.Iteration
import PrependList.Proofs.Text.Positional

/-!
# The text of a chain can be read

A text is read in two steps. It is cut at everything that is no part of a value: brackets, commas,
blanks, ends of lines and the fill of its style. What is left are words, one for each value, and a
word is a sign, the mark of its base and digits, some of which may be padding.

That works for every style whose fill cannot be taken for a part of a value (`Legible`). The ten
formats are of this kind, so in each of them the text of a chain has one reading, its values
(`text_determines_values`). How the chain has come about does not show.
-/

namespace PrependList

open Numeral

namespace Style

/-- What stands between values: brackets, separators, and the fill. -/
def isBreak (style : Style) (c : Char) : Bool :=
  c = '[' || c = ']' || c = ',' || c = ' ' || c = '\n' || c = style.fill

/-- The parts of a text that are not broken anywhere. -/
def words (style : Style) (cs : List Char) : List (List Char) :=
  (cs.splitOnP style.isBreak).filter fun word => !word.isEmpty

/-- Whether there is a minus in front, and what follows the sign. -/
def unsign : List Char → Bool × List Char
  | '-' :: cs => (true, cs)
  | '+' :: cs => (false, cs)
  | cs => (false, cs)

/-- What follows the mark of base sixteen. -/
def unmark : List Char → List Char
  | '0' :: 'x' :: cs => cs
  | cs => cs

/-- The integer that has these 32 bits. -/
def ofBits? (n : Nat) : Option Int32 :=
  if n < 4294967296 then some (UInt32.ofNat n).toInt32 else none

/-- The value of a word: a signed decimal, or the 32 bits of its two's complement in base sixteen. -/
def value? (style : Style) (cs : List Char) : Option Int32 :=
  match style.radix with
  | .decimal =>
    (digits? 10 (unsign cs).2).bind (if (unsign cs).1 then negative? else unsigned?)
  | _ => (digits? 16 (unmark (unsign cs).2)).bind ofBits?

/-- The values that a text in this style shows. -/
def read (style : Style) (cs : List Char) : Option (List Int32) :=
  (style.words cs).mapM style.value?

/-- A part of a value: a digit, a sign, or the letter in the mark of base sixteen. -/
def isPart (c : Char) : Bool := (worth? c).isSome || c = '+' || c = '-' || c = 'x'

/-- The fill cannot be taken for a part of a value. -/
def Legible (style : Style) : Prop := isPart style.fill = false

instance (style : Style) : Decidable style.Legible :=
  inferInstanceAs (Decidable (isPart style.fill = false))

/-! ## Words -/

section

variable {style : Style} {c : Char}

/-- No word goes past a break. -/
theorem words_append_cons (hc : style.isBreak c = true) (before after : List Char) :
    style.words (before ++ c :: after) = style.words before ++ style.words after := by
  simp [words, List.splitOnP_append_cons before after hc]

theorem words_cons (hc : style.isBreak c = true) (cs : List Char) :
    style.words (c :: cs) = style.words cs := by
  have h := words_append_cons hc [] cs
  simpa [words] using h

theorem words_breaks_append {gap : List Char} (hgap : ∀ c ∈ gap, style.isBreak c = true)
    (cs : List Char) : style.words (gap ++ cs) = style.words cs := by
  induction gap with
  | nil => rfl
  | cons c gap ih =>
    rw [List.cons_append, words_cons (hgap c List.mem_cons_self)]
    exact ih fun other hother => hgap other (List.mem_cons_of_mem c hother)

theorem words_unbroken {word : List Char} (hne : word ≠ [])
    (h : ∀ c ∈ word, style.isBreak c = false) : style.words word = [word] := by
  unfold words
  rw [List.splitOnP_eq_singleton h]
  simp [hne]

/-- **A word in the midst of fill is one word.** -/
theorem words_filled {before word after : List Char} (hne : word ≠ [])
    (hbefore : ∀ c ∈ before, style.isBreak c = true)
    (hword : ∀ c ∈ word, style.isBreak c = false)
    (hafter : ∀ c ∈ after, style.isBreak c = true) :
    style.words (before ++ word ++ after) = [word] := by
  rw [List.append_assoc, words_breaks_append hbefore]
  cases after with
  | nil => rw [List.append_nil, words_unbroken hne hword]
  | cons c after =>
    have hrest : style.words after = [] := by
      have h := words_breaks_append (fun c hc => hafter c (List.mem_cons_of_mem _ hc)) []
      simpa [words] using h
    rw [words_append_cons (hafter c List.mem_cons_self), words_unbroken hne hword, hrest]
    rfl

end

/-! ## One value -/

/-- The zeros that a value is padded with. -/
def padding (style : Style) (value : Int32) : List Char :=
  List.replicate (if style.zeros then style.gap value else 0) '0'

/-- A value without the fill around it. -/
def word (style : Style) (value : Int32) : List Char :=
  style.lead value ++ (style.padding value ++ style.digits value)

theorem value_eq (style : Style) (value : Int32) :
    ∃ left right, style.value value
      = List.replicate left style.fill ++ style.word value ++ List.replicate right style.fill := by
  by_cases hzeros : style.zeros = true
  · exact ⟨0, 0, by simp [Style.value, word, padding, hzeros]⟩
  · exact ⟨(style.sides value).1, (style.sides value).2,
      by simp [Style.value, word, padding, hzeros]⟩

/-- The number that the digits of a value stand for. -/
theorem digits?_padding_decimal {style : Style} (h : style.radix = .decimal) (value : Int32) :
    digits? 10 (style.padding value ++ style.digits value) = some (magnitude value) := by
  simp only [padding, digits, h]
  exact digits?_decimal _ _

theorem digits?_padding_hex {style : Style} (h : style.radix ≠ .decimal) (value : Int32) :
    digits? 16 (style.padding value ++ style.digits value) = some (bits value) := by
  cases hradix : style.radix with
  | decimal => exact absurd hradix h
  | lowerHex =>
    simp only [padding, digits, hradix]
    exact digits?_lowerHex _ _
  | upperHex =>
    simp only [padding, digits, hradix]
    exact digits?_upperHex _ _

/-- Padding and digits are digits, whatever the base. -/
theorem isSome_worth?_of_mem_digits {style : Style} {value : Int32} {c : Char}
    (hc : c ∈ style.padding value ++ style.digits value) : (worth? c).isSome = true := by
  by_cases h : style.radix = .decimal
  · exact isSome_worth?_of_mem (digits?_padding_decimal h value) c hc
  · exact isSome_worth?_of_mem (digits?_padding_hex h value) c hc

theorem unsign_of_digits {cs : List Char} (h : ∀ c ∈ cs, (worth? c).isSome = true) :
    unsign cs = (false, cs) := by
  unfold unsign
  split
  · exact absurd (h '-' List.mem_cons_self) (by decide)
  · exact absurd (h '+' List.mem_cons_self) (by decide)
  · rfl

theorem unmark_of_digits {cs : List Char} (h : ∀ c ∈ cs, (worth? c).isSome = true) :
    unmark cs = cs := by
  unfold unmark
  split
  · exact absurd (h 'x' (List.mem_cons_of_mem _ List.mem_cons_self)) (by decide)
  · rfl

theorem ofBits?_bits (value : Int32) : ofBits? (bits value) = some value := by
  have hless : bits value < 4294967296 := value.toUInt32.toNat_lt
  rw [ofBits?, if_pos hless, bits, UInt32.ofNat_toNat, Int32.toInt32_toUInt32]

/-- Signs are written in front of decimals that are negative, and where a plus is asked for. -/
theorem unsign_sign_append {cs : List Char} (h : unsign cs = (false, cs)) (style : Style)
    (value : Int32) :
    unsign (style.sign value ++ cs) = (decide (style.radix = .decimal ∧ value.toInt < 0), cs) := by
  unfold sign
  by_cases hminus : style.radix = .decimal ∧ value.toInt < 0
  · rw [if_pos hminus, decide_eq_true hminus]
    rfl
  · rw [if_neg hminus, decide_eq_false hminus]
    by_cases hplus : style.plus = true
    · rw [if_pos hplus]
      rfl
    · rw [if_neg hplus]
      exact h

theorem unsign_mark_append {cs : List Char} (h : ∀ c ∈ cs, (worth? c).isSome = true)
    (style : Style) : unsign (style.mark ++ cs) = (false, style.mark ++ cs) := by
  unfold mark
  split
  · rfl
  · exact unsign_of_digits h

theorem unmark_mark_append {cs : List Char} (h : ∀ c ∈ cs, (worth? c).isSome = true)
    (style : Style) : unmark (style.mark ++ cs) = cs := by
  unfold mark
  split
  · rfl
  · exact unmark_of_digits h

theorem value?_of_decimal {style : Style} (h : style.radix = .decimal) (cs : List Char) :
    style.value? cs
      = (digits? 10 (unsign cs).2).bind (if (unsign cs).1 then negative? else unsigned?) := by
  simp [value?, h]

theorem value?_of_hex {style : Style} (h : style.radix ≠ .decimal) (cs : List Char) :
    style.value? cs = (digits? 16 (unmark (unsign cs).2)).bind ofBits? := by
  unfold value?
  split
  · rename_i hdecimal
    exact absurd hdecimal h
  · rfl

/-- **A word is read as its value**, whatever the style. -/
theorem value?_word (style : Style) (value : Int32) :
    style.value? (style.word value) = some value := by
  have hdigits : ∀ c ∈ style.padding value ++ style.digits value, (worth? c).isSome = true :=
    fun c hc => isSome_worth?_of_mem_digits hc
  have hsign := unsign_sign_append (unsign_mark_append hdigits style) style value
  have hword : style.word value
      = style.sign value ++ (style.mark ++ (style.padding value ++ style.digits value)) := by
    rw [word, lead, List.append_assoc]
  rw [hword]
  by_cases hradix : style.radix = .decimal
  · -- there is no mark in base ten, and the sign decides how the magnitude is read
    have hmark : style.mark = [] := by simp [mark, hradix]
    rw [value?_of_decimal hradix, hsign, hmark, List.nil_append, digits?_padding_decimal hradix]
    by_cases hneg : value.toInt < 0
    · simp only [hradix, hneg, and_self, decide_true, if_true]
      exact negative?_eq_some_iff.mpr ⟨hneg, rfl⟩
    · simp only [hneg, and_false, decide_false, Bool.false_eq_true, if_false]
      exact unsigned?_eq_some_iff.mpr ⟨Int.not_lt.mp hneg, rfl⟩
  · rw [value?_of_hex hradix, hsign, unmark_mark_append hdigits, digits?_padding_hex hradix]
    exact ofBits?_bits value

theorem isPart_of_mem_word {style : Style} {value : Int32} {c : Char}
    (hc : c ∈ style.word value) : isPart c = true := by
  rw [word, List.mem_append] at hc
  rcases hc with hlead | hdigit
  · have hcases : c = '-' ∨ c = '+' ∨ c = '0' ∨ c = 'x' := by
      rw [lead, List.mem_append, sign, mark] at hlead
      split at hlead <;> split at hlead <;> grind
    rcases hcases with rfl | rfl | rfl | rfl <;> decide
  · simp [isPart, isSome_worth?_of_mem_digits hdigit]

theorem word_ne_nil (style : Style) (value : Int32) : style.word value ≠ [] := by
  intro h
  have hvalue := style.value?_word value
  rw [h] at hvalue
  revert hvalue
  unfold value?
  split <;> simp [unsign, unmark, digits?]

/-- In a legible style no part of a value is a break. -/
theorem Legible.isBreak_of_isPart {style : Style} (h : style.Legible) {c : Char}
    (hc : isPart c = true) : style.isBreak c = false := by
  have hnot : ∀ other, isPart other = false → c ≠ other := by
    rintro other hother rfl
    rw [hc] at hother
    cases hother
  simp [isBreak, hnot '[' rfl, hnot ']' rfl, hnot ',' rfl, hnot ' ' rfl, hnot '\n' rfl,
    hnot style.fill h]

theorem Legible.words_value {style : Style} (h : style.Legible) (value : Int32) :
    style.words (style.value value) = [style.word value] := by
  obtain ⟨left, right, heq⟩ := style.value_eq value
  have hfill : ∀ count, ∀ c ∈ List.replicate count style.fill, style.isBreak c = true := by
    intro count c hc
    rw [List.eq_of_mem_replicate hc]
    simp [isBreak]
  rw [heq]
  exact words_filled (style.word_ne_nil value) (hfill left)
    (fun c hc => h.isBreak_of_isPart (isPart_of_mem_word hc)) (hfill right)

/-! ## All values -/

/-- A value that a break follows. -/
theorem Legible.words_value_cons {style : Style} (h : style.Legible) (value : Int32) {c : Char}
    (hc : style.isBreak c = true) (rest : List Char) :
    style.words (style.value value ++ c :: rest) = style.word value :: style.words rest := by
  rw [words_append_cons hc, h.words_value]
  rfl

theorem Legible.words_rows {style : Style} (h : style.Legible) (values : List Int32) :
    style.words (values.flatMap style.row ++ [']']) = values.map style.word := by
  induction values with
  | nil => rfl
  | cons value values ih =>
    have hcomma : style.isBreak ',' = true := rfl
    have hmargin : ∀ c ∈ [' ', ' ', ' ', ' '], style.isBreak c = true := by simp [isBreak]
    have hrow : (value :: values).flatMap style.row ++ [']']
        = [' ', ' ', ' ', ' '] ++ (style.value value ++ ',' :: '\n' ::
            (values.flatMap style.row ++ [']'])) := by
      simp [row]
    rw [hrow, words_breaks_append hmargin, h.words_value_cons value hcomma, words_cons rfl,
      ih]
    rfl

theorem Legible.words_row {style : Style} (h : style.Legible) (values : List Int32) :
    style.words ([',', ' '].intercalate (values.map style.value) ++ [']'])
      = values.map style.word := by
  have hcomma : style.isBreak ',' = true := rfl
  have hclose : style.isBreak ']' = true := rfl
  induction values with
  | nil => rfl
  | cons value values ih =>
    cases values with
    | nil =>
      rw [List.map_singleton, List.intercalate_singleton, h.words_value_cons value hclose]
      rfl
    | cons next values =>
      have hfirst : [',', ' '].intercalate ((value :: next :: values).map style.value) ++ [']']
          = style.value value ++ ',' :: ' ' ::
            ([',', ' '].intercalate ((next :: values).map style.value) ++ [']']) := by
        simp [List.intercalate_cons_cons]
      rw [hfirst, h.words_value_cons value hcomma, words_cons rfl, ih]
      rfl

/-- **In a legible style a text is read as the values it was written for.** -/
theorem Legible.read_values {style : Style} (h : style.Legible) (values : List Int32) :
    style.read (style.values values) = some values := by
  have hwords : style.words (style.values values) = values.map style.word := by
    unfold Style.values
    split
    · have hopen : ∀ c ∈ ['[', '\n'], style.isBreak c = true := by simp [isBreak]
      rw [List.append_assoc, words_breaks_append hopen, h.words_rows]
    · have hopen : ∀ c ∈ ['['], style.isBreak c = true := by simp [isBreak]
      rw [List.append_assoc, words_breaks_append hopen, h.words_row]
  rw [read, hwords]
  exact mapM_map_of_left_inverse style.value?_word values

end Style

theorem Format.legible (format : Format) : format.style.Legible := by
  cases format <;> rfl

namespace Chain

/--
**The text of a chain determines its values.**

In each format the text is read as the values that an iteration over the chain yields, in their
order. So two chains have the same text in a format exactly if they hold the same values, whatever
has been done to build them.
-/
theorem text_determines_values (format : Format) :
    (∀ chain : Chain, chain.cursor.Yields chain.values
        ∧ format.style.read (chain.text format) = some chain.values)
      ∧ ∀ chain other : Chain,
        chain.text format = other.text format ↔ chain.values = other.values := by
  have hread : ∀ chain : Chain, format.style.read (chain.text format) = some chain.values :=
    fun chain => format.legible.read_values chain.nodes
  refine ⟨fun chain => ⟨chain.yields_cursor, hread chain⟩, fun chain other => ?_⟩
  constructor
  · intro h
    have hboth : some chain.values = some other.values := by rw [← hread, h, hread]
    exact Option.some.inj hboth
  · intro h
    exact congrArg format.style.values h

/-- The odd one of the fill stands on the right, and the least value is wider than its column. -/
example : Format.centre.style.read "[***1***, **-12**, -2147483648]".toList
    = some [1, -12, Int32.minValue] := by decide

end Chain

end PrependList
