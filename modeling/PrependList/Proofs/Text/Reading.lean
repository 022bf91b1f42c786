import Mathlib.Data.List.Basic
import PrependList.Text.Numeral

/-!
# Reading numerals back

The readers here know digits, signs and the range of 32 bits, and nothing of how numerals are
written. They accept exactly what is written and give back what it was written for. So a number has
one numeral, and no two numbers share one.
-/

namespace PrependList

/-- A reader that undoes a writer undoes it on lists. -/
theorem mapM_map_of_left_inverse {α β : Type} {read : α → Option β} {write : β → α}
    (h : ∀ value, read (write value) = some value) (values : List β) :
    (values.map write).mapM read = some values := by
  induction values with
  | nil => rfl
  | cons value values ih => simp [h, ih]

/-- A reader that accepts exactly what is written accepts exactly the rows of it. -/
theorem mapM_eq_some_iff {α β : Type} {read : α → Option β} {write : β → α}
    (h : ∀ item value, read item = some value ↔ item = write value) {items : List α} :
    ∀ {values : List β}, items.mapM read = some values ↔ items = values.map write := by
  induction items with
  | nil => intro values; cases values <;> simp
  | cons item items ih =>
    intro values
    rw [List.mapM_cons]
    simp only [Option.bind_eq_bind, Option.bind_eq_some_iff, Option.pure_def, Option.some.injEq, h,
      ih]
    constructor
    · rintro ⟨value, rfl, rest, rfl, rfl⟩
      rfl
    · intro hitems
      cases values with
      | nil => cases hitems
      | cons value rest =>
        rw [List.map_cons, List.cons.injEq] at hitems
        exact ⟨value, hitems.1, rest, hitems.2, rfl⟩

namespace Numeral

/-- Digits alone, at least one of them, and no zero in front of others. -/
def IsNatural (cs : List Char) : Prop :=
  cs ≠ [] ∧ (∀ c ∈ cs, c.isDigit = true) ∧ (cs.head? = some '0' → cs = ['0'])

instance (cs : List Char) : Decidable (IsNatural cs) := inferInstanceAs (Decidable (_ ∧ _ ∧ _))

/-- The natural number that the text is the decimal numeral of. -/
def natural? (cs : List Char) : Option Nat :=
  if IsNatural cs then some (Nat.ofDigitChars 10 cs 0) else none

/-- The integer of this magnitude without a sign, if it has 32 bits. -/
def unsigned? (n : Nat) : Option Int32 := if n < 2147483648 then some (Int32.ofInt n) else none

/-- The integer of this magnitude behind a minus, if it has 32 bits. Zero has no sign. -/
def negative? (n : Nat) : Option Int32 :=
  if 0 < n ∧ n ≤ 2147483648 then some (Int32.ofInt (-n)) else none

/-- The 32-bit integer that the text is the decimal numeral of. -/
def signed? (cs : List Char) : Option Int32 :=
  match cs with
  | '-' :: digits => (natural? digits).bind negative?
  | _ => (natural? cs).bind unsigned?

/-! ## Natural numbers -/

theorem isDigit_decimal {n : Nat} {c : Char} (h : c ∈ decimal n) : c.isDigit = true :=
  Nat.isDigit_of_mem_toDigits (by decide) (by decide) h

/-- Only zero begins with a zero. -/
theorem head?_decimal {n : Nat} (h : (decimal n).head? = some '0') : n = 0 := by
  induction n using Nat.strongRecOn with
  | ind n ih =>
    rw [decimal] at h
    by_cases hn : n < 10
    · rw [Nat.toDigits_of_lt_base hn, List.head?_cons] at h
      have hdigit : n.digitChar.toNat = 48 := congrArg Char.toNat (Option.some.inj h)
      rw [Nat.toNat_digitChar_of_lt_ten hn] at hdigit
      omega
    · -- the first digit is that of the number without its last digit, which is smaller and not zero
      rw [Nat.toDigits_of_base_le (by decide) (by omega),
        List.head?_append_of_ne_nil _ Nat.toDigits_ne_nil] at h
      have hless := ih (n / 10) (by omega) h
      omega

theorem isNatural_decimal (n : Nat) : IsNatural (decimal n) := by
  refine ⟨Nat.toDigits_ne_nil, fun c hc => isDigit_decimal hc, fun hzero => ?_⟩
  rw [head?_decimal hzero]
  rfl

theorem digitChar_of_isDigit {c : Char} (h : c.isDigit = true) :
    Nat.digitChar (c.toNat - 48) = c ∧ c.toNat - 48 < 10 := by
  have hrange : 48 ≤ c.toNat ∧ c.toNat ≤ 57 := by
    simp only [Char.isDigit, Bool.and_eq_true, decide_eq_true_eq] at h
    exact h
  have hless : c.toNat - 48 < 10 := by omega
  refine ⟨Char.toNat_inj.mp ?_, hless⟩
  rw [Nat.toNat_digitChar_of_lt_ten hless]
  omega

/-- Digits behind a numeral that is not zero make a longer numeral. -/
theorem decimal_append (cs : List Char) :
    ∀ {acc : Nat}, 0 < acc → (∀ c ∈ cs, c.isDigit = true) →
      decimal acc ++ cs = decimal (Nat.ofDigitChars 10 cs acc) := by
  induction cs with
  | nil => intro acc _ _; rw [List.append_nil, Nat.ofDigitChars_nil]
  | cons c cs ih =>
    intro acc hacc hdigits
    obtain ⟨hchar, hless⟩ := digitChar_of_isDigit (hdigits c List.mem_cons_self)
    have hlonger : decimal acc ++ [c] = decimal (10 * acc + (c.toNat - 48)) := by
      have hjoined := Nat.toDigits_append_toDigits (b := 10) (by decide) hacc hless
      rwa [Nat.toDigits_of_lt_base hless, hchar] at hjoined
    calc decimal acc ++ c :: cs
        = (decimal acc ++ [c]) ++ cs := by rw [List.append_assoc, List.singleton_append]
      _ = decimal (10 * acc + (c.toNat - 48)) ++ cs := by rw [hlonger]
      _ = decimal (Nat.ofDigitChars 10 cs (10 * acc + (c.toNat - 48))) :=
          ih (by omega) fun other hother => hdigits other (List.mem_cons_of_mem c hother)
      _ = decimal (Nat.ofDigitChars 10 (c :: cs) acc) := by rw [Nat.ofDigitChars_cons]; rfl

/-- **A text of this form is the numeral of its value.** -/
theorem decimal_of_isNatural {cs : List Char} (h : IsNatural cs) :
    cs = decimal (Nat.ofDigitChars 10 cs 0) := by
  obtain ⟨hne, hdigits, hzero⟩ := h
  cases cs with
  | nil => exact absurd rfl hne
  | cons c cs =>
    by_cases hc : c = '0'
    · rw [hzero (by rw [hc]; rfl)]
      rfl
    · obtain ⟨hchar, hless⟩ := digitChar_of_isDigit (hdigits c List.mem_cons_self)
      have hpos : 0 < c.toNat - 48 := by
        rcases Nat.eq_zero_or_pos (c.toNat - 48) with hnone | hpos
        · rw [hnone] at hchar
          exact absurd hchar.symm hc
        · exact hpos
      have hfirst : decimal (c.toNat - 48) = [c] := by
        rw [decimal, Nat.toDigits_of_lt_base hless, hchar]
      have hall := decimal_append cs hpos
        (fun other hother => hdigits other (List.mem_cons_of_mem c hother))
      rw [hfirst] at hall
      -- nothing stands before the first digit, so it is the whole of the number so far
      rw [Nat.ofDigitChars_cons, Nat.mul_zero, Nat.zero_add]
      exact hall

/-- **Reading accepts exactly the numerals.** -/
theorem natural?_eq_some_iff {cs : List Char} {n : Nat} :
    natural? cs = some n ↔ cs = decimal n := by
  rw [natural?]
  constructor
  · intro h
    split at h
    · rename_i hnatural
      rw [← Option.some.inj h]
      exact decimal_of_isNatural hnatural
    · cases h
  · intro h
    rw [h, if_pos (isNatural_decimal n)]
    exact congrArg some Nat.ofDigitChars_ten_toDigits

theorem decimal_injective {n m : Nat} (h : decimal n = decimal m) : n = m := by
  have hread : natural? (decimal m) = some n := natural?_eq_some_iff.mpr h.symm
  rw [natural?_eq_some_iff.mpr rfl] at hread
  exact (Option.some.inj hread).symm

/-! ## Integers -/

theorem minus_not_mem_decimal (n : Nat) : '-' ∉ decimal n :=
  fun h => absurd (isDigit_decimal h) (by decide)

theorem signed_of_neg {value : Int32} (h : value.toInt < 0) :
    signed value = '-' :: decimal (magnitude value) := by
  rw [signed, sign, if_pos h]
  rfl

theorem signed_of_nonneg {value : Int32} (h : 0 ≤ value.toInt) :
    signed value = decimal (magnitude value) := by
  rw [signed, sign, if_neg (Int.not_lt.mpr h)]
  rfl

theorem unsigned?_eq_some_iff {n : Nat} {value : Int32} :
    unsigned? n = some value ↔ 0 ≤ value.toInt ∧ n = magnitude value := by
  have hhigh := value.toInt_lt
  rw [unsigned?, magnitude]
  constructor
  · intro h
    split at h
    · have hint : value.toInt = n := by
        rw [← Option.some.inj h, Int32.toInt_ofInt_of_le (by omega) (by omega)]
      omega
    · cases h
  · rintro ⟨hpos, rfl⟩
    have hback : (value.toInt.natAbs : Int) = value.toInt := Int.natAbs_of_nonneg hpos
    rw [if_pos (by omega), hback, Int32.ofInt_toInt]

theorem negative?_eq_some_iff {n : Nat} {value : Int32} :
    negative? n = some value ↔ value.toInt < 0 ∧ n = magnitude value := by
  have hlow := value.le_toInt
  rw [negative?, magnitude]
  constructor
  · intro h
    split at h
    · have hint : value.toInt = -n := by
        rw [← Option.some.inj h, Int32.toInt_ofInt_of_le (by omega) (by omega)]
      omega
    · cases h
  · rintro ⟨hneg, rfl⟩
    have hback : -(value.toInt.natAbs : Int) = value.toInt := by omega
    rw [if_pos (by omega), hback, Int32.ofInt_toInt]

theorem signed?_minus_eq_some_iff {digits : List Char} {value : Int32} :
    signed? ('-' :: digits) = some value
      ↔ value.toInt < 0 ∧ digits = decimal (magnitude value) := by
  show (natural? digits).bind negative? = some value ↔ _
  simp only [Option.bind_eq_some_iff, natural?_eq_some_iff, negative?_eq_some_iff]
  constructor
  · rintro ⟨n, rfl, hneg, rfl⟩
    exact ⟨hneg, rfl⟩
  · rintro ⟨hneg, rfl⟩
    exact ⟨_, rfl, hneg, rfl⟩

theorem signed?_plain_eq_some_iff {cs : List Char} {value : Int32} (h : cs.head? ≠ some '-') :
    signed? cs = some value ↔ 0 ≤ value.toInt ∧ cs = decimal (magnitude value) := by
  have hplain : signed? cs = (natural? cs).bind unsigned? := by
    unfold signed?
    split
    · exact absurd rfl h
    · rfl
  rw [hplain]
  simp only [Option.bind_eq_some_iff, natural?_eq_some_iff, unsigned?_eq_some_iff]
  constructor
  · rintro ⟨n, rfl, hpos, rfl⟩
    exact ⟨hpos, rfl⟩
  · rintro ⟨hpos, rfl⟩
    exact ⟨_, rfl, hpos, rfl⟩

/-- **Reading accepts exactly what is written for a 32-bit integer.** -/
theorem signed?_eq_some_iff {cs : List Char} {value : Int32} :
    signed? cs = some value ↔ cs = signed value := by
  have hdigits : (decimal (magnitude value)).head? ≠ some '-' :=
    fun h => minus_not_mem_decimal _ (List.mem_of_mem_head? h)
  by_cases hminus : cs.head? = some '-'
  · obtain ⟨digits, rfl⟩ := List.head?_eq_some_iff.mp hminus
    rw [signed?_minus_eq_some_iff]
    by_cases hneg : value.toInt < 0
    · simp [signed_of_neg hneg, hneg]
    · -- the numeral of a value that is not negative begins with a digit
      rw [signed_of_nonneg (Int.not_lt.mp hneg)]
      exact iff_of_false (fun h => hneg h.1) (fun h => hdigits (h ▸ hminus))
  · rw [signed?_plain_eq_some_iff hminus]
    by_cases hneg : value.toInt < 0
    · rw [signed_of_neg hneg]
      exact iff_of_false (fun h => by omega) (fun h => hminus (by rw [h]; rfl))
    · simp [signed_of_nonneg (Int.not_lt.mp hneg), Int.not_lt.mp hneg]

end Numeral

end PrependList
