import PrependList.Proofs.Text.Reading

/-!
# Reading digits in any base

Padded values and code points have numerals that `natural?` does not take: other bases than ten, and
zeros in front. The reader here takes digits of every base up to sixteen, letters in either case, and
any number of zeros before them. It does not single out one way of writing a number. What matters is
that each way is read as the number it was written for (`digits?_toDigits`), and that what it takes
holds nothing but digits (`isSome_worth?_of_mem`), so that signs, separators and fill are never part of it.
-/

namespace PrependList.Numeral

/-- What the character counts as a digit. -/
def worth? (c : Char) : Option Nat :=
  if c.isDigit then some (c.toNat - 48)
  else if 'a' ≤ c ∧ c ≤ 'f' then some (c.toNat - 87)
  else if 'A' ≤ c ∧ c ≤ 'F' then some (c.toNat - 55)
  else none

/-- The number with one more digit behind it. -/
def extend? (base sofar : Nat) (c : Char) : Option Nat :=
  (worth? c).bind fun digit => if digit < base then some (base * sofar + digit) else none

/-- The number that the digits stand for. There has to be one digit at least. -/
def digits? (base : Nat) (cs : List Char) : Option Nat :=
  if cs = [] then none else cs.foldlM (extend? base) 0

/-- A way to write digits: each of the sixteen is read as itself. -/
def Writes (f : Char → Char) : Prop := ∀ d < 16, worth? (f d.digitChar) = some d

theorem writes_id : Writes id := by unfold Writes; decide

theorem writes_toUpper : Writes Char.toUpper := by unfold Writes; decide

section

variable {base : Nat} {f : Char → Char}

theorem Writes.extend?_digitChar (hf : Writes f) (hbase : base ≤ 16) {d : Nat} (hd : d < base)
    (sofar : Nat) : extend? base sofar (f d.digitChar) = some (base * sofar + d) := by
  simp [extend?, hf d (by omega), hd]

theorem foldlM_zeros (hbase : 0 < base) (zeros : Nat) :
    (List.replicate zeros '0').foldlM (extend? base) 0 = some 0 := by
  induction zeros with
  | zero => rfl
  | succ zeros ih =>
    have hzero : extend? base 0 '0' = some 0 := by
      rw [extend?, show worth? '0' = some 0 from rfl]
      simp [hbase]
    rw [List.replicate_succ, List.foldlM_cons, hzero]
    exact ih

theorem Writes.foldlM_toDigits (hf : Writes f) (hlow : 1 < base) (hhigh : base ≤ 16) (n : Nat) :
    ((Nat.toDigits base n).map f).foldlM (extend? base) 0 = some n := by
  induction n using Nat.strongRecOn with
  | ind n ih =>
    by_cases hn : n < base
    · rw [Nat.toDigits_of_lt_base hn]
      simp [hf.extend?_digitChar hhigh hn]
    · -- the last digit stands behind the numeral of what is left without it
      have hdigit : n % base < base := Nat.mod_lt n (by omega)
      have hless : n / base < n := Nat.div_lt_self (by omega) hlow
      rw [Nat.toDigits_of_base_le hlow (by omega), List.map_append, List.foldlM_append,
        ih (n / base) hless]
      simp [hf.extend?_digitChar hhigh hdigit, Nat.div_add_mod]

/-- **Every numeral is read as its number**, whatever zeros stand in front. -/
theorem Writes.digits?_toDigits (hf : Writes f) (hlow : 1 < base) (hhigh : base ≤ 16)
    (zeros n : Nat) :
    digits? base (List.replicate zeros '0' ++ (Nat.toDigits base n).map f) = some n := by
  have hne : List.replicate zeros '0' ++ (Nat.toDigits base n).map f ≠ [] := by
    simp [Nat.toDigits_ne_nil]
  rw [digits?, if_neg hne, List.foldlM_append, foldlM_zeros (by omega)]
  exact hf.foldlM_toDigits hlow hhigh n

/-- **What is read holds digits only.** -/
theorem isSome_worth?_of_mem {cs : List Char} {n : Nat} (h : digits? base cs = some n) :
    ∀ c ∈ cs, (worth? c).isSome = true := by
  have hfold : ∀ (cs : List Char) (sofar n : Nat), cs.foldlM (extend? base) sofar = some n →
      ∀ c ∈ cs, (worth? c).isSome = true := by
    intro cs
    induction cs with
    | nil => intro _ _ _ c hc; cases hc
    | cons first cs ih =>
      intro sofar n h c hc
      rw [List.foldlM_cons] at h
      obtain ⟨longer, hfirst, hrest⟩ := Option.bind_eq_some_iff.mp h
      rcases List.mem_cons.mp hc with rfl | hc
      · obtain ⟨digit, hdigit, _⟩ := Option.bind_eq_some_iff.mp hfirst
        rw [hdigit]
        rfl
      · exact ih longer n hrest c hc
  unfold digits? at h
  split at h
  · cases h
  · exact hfold cs 0 n h

end

/-- Digits lie between the zero and the last letter, and thus within ASCII. -/
theorem toNat_of_isSome_worth? {c : Char} (h : (worth? c).isSome = true) :
    48 ≤ c.toNat ∧ c.toNat ≤ 102 := by
  unfold worth? at h
  by_cases hdigit : c.isDigit = true
  · rw [Char.isDigit_iff_toNat] at hdigit
    have hlow : '0'.toNat = 48 := rfl
    have hhigh : '9'.toNat = 57 := rfl
    omega
  rw [if_neg hdigit] at h
  by_cases hlower : 'a' ≤ c ∧ c ≤ 'f'
  · exact ⟨Nat.le_trans (by decide) hlower.1, hlower.2⟩
  rw [if_neg hlower] at h
  by_cases hupper : 'A' ≤ c ∧ c ≤ 'F'
  · exact ⟨Nat.le_trans (by decide) hupper.1, Nat.le_trans hupper.2 (by decide)⟩
  · rw [if_neg hupper] at h
    cases h

/-! ## The numerals that are written -/

theorem digits?_decimal (zeros n : Nat) :
    digits? 10 (List.replicate zeros '0' ++ decimal n) = some n := by
  have h : digits? 10 (List.replicate zeros '0' ++ (decimal n).map id) = some n :=
    writes_id.digits?_toDigits (by omega) (by omega) zeros n
  rwa [List.map_id] at h

theorem digits?_lowerHex (zeros n : Nat) :
    digits? 16 (List.replicate zeros '0' ++ lowerHex n) = some n := by
  have h : digits? 16 (List.replicate zeros '0' ++ (lowerHex n).map id) = some n :=
    writes_id.digits?_toDigits (by omega) (by omega) zeros n
  rwa [List.map_id] at h

theorem digits?_upperHex (zeros n : Nat) :
    digits? 16 (List.replicate zeros '0' ++ upperHex n) = some n :=
  writes_toUpper.digits?_toDigits (by omega) (by omega) zeros n

end PrependList.Numeral
