import PrependList.Proofs.Text.Positional
import PrependList.Text.Quoted

/-!
# Reading quoted text back

The reader takes one piece off the front of a quoted text, a character or a byte that belongs to
none. It undoes one step of quoting whatever follows (`next?_escapePiece`), so escapes cannot be
confused with each other or with the characters next to them, and at the closing quote it stops.
Hence the pieces up to the closing quote are determined, and so is what comes behind it
(`pieces?_flatMap`).

Lists are read on top of that (`list?_bytesList`). Commas, brackets and quotes inside a quoted byte
string are taken as pieces of it, so none of them is mistaken for one that the list is made with.

All that is written holds plain characters only (`isPlain_of_mem_bytesList`). So a quoted text stays
on its line, whatever was quoted.
-/

namespace PrependList.Quoted

open Numeral

/-- The character that has this letter of its own behind a backslash. -/
def named? (c : Char) : Option Char :=
  if c = '"' then some '"'
  else if c = '\\' then some '\\'
  else if c = 'n' then some '\n'
  else if c = 'r' then some '\r'
  else if c = 't' then some '\t'
  else if c = '0' then some '\x00'
  else none

/-- What a backslash makes of the text behind it. -/
def escaped? : List Char → Option (Utf8.Piece × List Char)
  | 'x' :: high :: low :: rest =>
    (digits? 16 [high, low]).map fun n => (.byte (UInt8.ofNat n), rest)
  | 'u' :: '\x7b' :: rest =>
    (digits? 16 (rest.takeWhile (· != '\x7d'))).map fun n =>
      (.char (Char.ofNat n), (rest.dropWhile (· != '\x7d')).tail)
  | c :: rest => (named? c).map fun named => (.char named, rest)
  | [] => none

/-- The piece at the front, and the text behind it. There is none at a quote. -/
def next? : List Char → Option (Utf8.Piece × List Char)
  | [] => none
  | c :: rest =>
    if c = '"' then none
    else if c = '\\' then escaped? rest
    else some (.char c, rest)

/-! ## One piece -/

theorem digits?_braced (n : Nat) (rest : List Char) :
    let cs := lowerHex n ++ '\x7d' :: rest
    digits? 16 (cs.takeWhile (· != '\x7d')) = some n
      ∧ (cs.dropWhile (· != '\x7d')).tail = rest := by
  intro cs
  have hread : digits? 16 (lowerHex n) = some n := digits?_lowerHex 0 n
  -- the closing brace is no digit, so the numeral ends in front of it
  have hdigits : ∀ c ∈ lowerHex n, (c != '\x7d') = true := by
    intro c hc
    rw [bne_iff_ne]
    rintro rfl
    exact absurd (isSome_worth?_of_mem hread _ hc) (by decide)
  constructor
  · rw [List.takeWhile_append_of_pos hdigits]
    simpa using hread
  · rw [List.dropWhile_append_of_pos hdigits]
    simp

/-- The three ways to write a character: a letter of its own, itself, and its code point. -/
theorem escape_cases (c : Char) :
    (∃ letter, escape c = ['\\', letter] ∧ named? letter = some c)
      ∨ (escape c = [c] ∧ isPlain c = true ∧ c ≠ '"' ∧ c ≠ '\\')
      ∨ escape c = ['\\', 'u', '\x7b'] ++ lowerHex c.toNat ++ ['\x7d'] := by
  unfold escape
  by_cases hquote : c = '"'
  · exact .inl ⟨'"', by simp [hquote], by rw [hquote]; rfl⟩
  by_cases hslash : c = '\\'
  · exact .inl ⟨'\\', by simp [hslash], by rw [hslash]; rfl⟩
  by_cases hline : c = '\n'
  · exact .inl ⟨'n', by simp [hline], by rw [hline]; rfl⟩
  by_cases hreturn : c = '\r'
  · exact .inl ⟨'r', by simp [hreturn], by rw [hreturn]; rfl⟩
  by_cases htab : c = '\t'
  · exact .inl ⟨'t', by simp [htab], by rw [htab]; rfl⟩
  by_cases hzero : c = '\x00'
  · exact .inl ⟨'0', by simp [hzero], by rw [hzero]; rfl⟩
  rw [if_neg hquote, if_neg hslash, if_neg hline, if_neg hreturn, if_neg htab, if_neg hzero]
  by_cases hplain : isPlain c = true
  · exact .inr (.inl ⟨if_pos hplain, hplain, hquote, hslash⟩)
  · exact .inr (.inr (if_neg hplain))

theorem escaped?_of_named {letter c : Char} (h : named? letter = some c) (rest : List Char) :
    escaped? (letter :: rest) = some (.char c, rest) := by
  have hx : letter ≠ 'x' := by rintro rfl; cases h
  have hu : letter ≠ 'u' := by rintro rfl; cases h
  simp [escaped?, hx, hu, h]

theorem next?_braced (cs : List Char) :
    next? ('\\' :: 'u' :: '\x7b' :: cs)
      = (digits? 16 (cs.takeWhile (· != '\x7d'))).map fun n =>
          (.char (Char.ofNat n), (cs.dropWhile (· != '\x7d')).tail) := rfl

theorem next?_escape (c : Char) (rest : List Char) :
    next? (escape c ++ rest) = some (.char c, rest) := by
  rcases escape_cases c with ⟨letter, hescape, hnamed⟩ | ⟨hescape, -, hquote, hslash⟩ | hescape
  · rw [hescape]
    exact escaped?_of_named hnamed rest
  · rw [hescape]
    simp [next?, hquote, hslash]
  · obtain ⟨hcode, hrest⟩ := digits?_braced c.toNat rest
    have htext : escape c ++ rest
        = '\\' :: 'u' :: '\x7b' :: (lowerHex c.toNat ++ '\x7d' :: rest) := by simp [hescape]
    rw [htext, next?_braced, hcode, hrest]
    simp

theorem next?_escapeByte (b : UInt8) (rest : List Char) :
    next? (escapeByte b ++ rest) = some (.byte b, rest) := by
  have hbyte : b.toNat < 256 := b.toNat_lt
  have hhigh : b.toNat / 16 < 16 := by omega
  have hlow : b.toNat % 16 < 16 := by omega
  have hread : digits? 16 [(b.toNat / 16).digitChar.toUpper, (b.toNat % 16).digitChar.toUpper]
      = some b.toNat := by
    simp [digits?, writes_toUpper.extend?_digitChar, hhigh, hlow, Nat.div_add_mod]
  have hescape : escapeByte b
      = ['\\', 'x', (b.toNat / 16).digitChar.toUpper, (b.toNat % 16).digitChar.toUpper] := by
    simp [escapeByte, upperHex, lowerHex, Nat.toDigits_of_lt_base, hhigh, hlow]
  rw [hescape]
  show (digits? 16 [_, _]).map _ = _
  rw [hread]
  simp

theorem next?_escapePiece (piece : Utf8.Piece) (rest : List Char) :
    next? (escapePiece piece ++ rest) = some (piece, rest) := by
  cases piece with
  | char c => exact next?_escape c rest
  | byte b => exact next?_escapeByte b rest

/-! ## All pieces -/

theorem length_le_of_escaped? {cs rest : List Char} {piece : Utf8.Piece}
    (h : escaped? cs = some (piece, rest)) : rest.length ≤ cs.length := by
  unfold escaped? at h
  split at h
  · obtain ⟨n, -, hn⟩ := Option.map_eq_some_iff.mp h
    rw [← (Prod.mk.inj hn).2]
    simp only [List.length_cons]
    omega
  · rename_i cs
    obtain ⟨n, -, hn⟩ := Option.map_eq_some_iff.mp h
    have hdrop := (List.dropWhile_sublist (l := cs) (· != '\x7d')).length_le
    rw [← (Prod.mk.inj hn).2]
    simp only [List.length_cons, List.length_tail]
    omega
  · obtain ⟨named, -, hn⟩ := Option.map_eq_some_iff.mp h
    rw [← (Prod.mk.inj hn).2]
    exact Nat.le_succ _
  · cases h

/-- Every piece takes something off the text. -/
theorem length_lt_of_next? {cs rest : List Char} {piece : Utf8.Piece}
    (h : next? cs = some (piece, rest)) : rest.length < cs.length := by
  cases cs with
  | nil => cases h
  | cons c cs =>
    rw [List.length_cons, Nat.lt_succ_iff]
    simp only [next?] at h
    by_cases hquote : c = '"'
    · rw [if_pos hquote] at h
      cases h
    rw [if_neg hquote] at h
    by_cases hslash : c = '\\'
    · rw [if_pos hslash] at h
      exact length_le_of_escaped? h
    · rw [if_neg hslash] at h
      cases h
      exact Nat.le_refl _

/-- The pieces up to the closing quote, and the text behind it. -/
def pieces? (cs : List Char) : Option (List Utf8.Piece × List Char) :=
  match _h : next? cs with
  | some (piece, rest) => (pieces? rest).map fun found => (piece :: found.1, found.2)
  | none => if cs.head? = some '"' then some ([], cs.tail) else none
termination_by cs.length
decreasing_by exact length_lt_of_next? ‹_›

theorem pieces?_of_next? {cs rest : List Char} {piece : Utf8.Piece}
    (h : next? cs = some (piece, rest)) :
    pieces? cs = (pieces? rest).map fun found => (piece :: found.1, found.2) := by
  rw [pieces?]
  split
  · rename_i hnext
    rw [h] at hnext
    cases hnext
    rfl
  · rename_i hnext
    rw [h] at hnext
    cases hnext

theorem pieces?_quote (rest : List Char) : pieces? ('"' :: rest) = some ([], rest) := by
  rw [pieces?]
  rfl

/-- **Quoted pieces are read back**, whatever is behind the closing quote. -/
theorem pieces?_flatMap (pieces : List Utf8.Piece) (rest : List Char) :
    pieces? (pieces.flatMap escapePiece ++ '"' :: rest) = some (pieces, rest) := by
  induction pieces with
  | nil => exact pieces?_quote rest
  | cons piece pieces ih =>
    rw [List.flatMap_cons, List.append_assoc, pieces?_of_next? (next?_escapePiece piece _), ih]
    rfl

theorem text_injective {cs ds : List Char} (h : text cs = text ds) : cs = ds := by
  have hread : ∀ cs : List Char, pieces? (text cs).tail = some (cs.map .char, []) := by
    intro cs
    have htext : (text cs).tail = (cs.map Utf8.Piece.char).flatMap escapePiece ++ '"' :: [] := by
      simp [text, List.flatMap_map, escapePiece]
    rw [htext, pieces?_flatMap]
  have hsame := hread cs
  rw [h, hread ds] at hsame
  have hpieces := (Prod.mk.inj (Option.some.inj hsame)).1.symm
  exact List.map_injective_iff.mpr (fun _ _ hchar => Utf8.Piece.char.inj hchar) hpieces

/-! ## Lists -/

/-- The byte string in quotes at the front, and the text behind it. -/
def bytes? : List Char → Option (List UInt8 × List Char)
  | '"' :: cs => (pieces? cs).map fun found => (found.1.flatMap Utf8.Piece.bytes, found.2)
  | _ => none

theorem length_lt_of_pieces? {cs : List Char} :
    ∀ {found : List Utf8.Piece} {rest : List Char},
      pieces? cs = some (found, rest) → rest.length < cs.length := by
  fun_induction pieces? cs with
  | case1 cs piece behind hnext ih =>
    intro found rest h
    obtain ⟨others, hothers, heq⟩ := Option.map_eq_some_iff.mp h
    have hbehind := length_lt_of_next? hnext
    have hrest := ih hothers
    rw [(Prod.mk.inj heq).2] at hrest
    omega
  | case2 cs hnext hquote =>
    intro found rest h
    rw [← (Prod.mk.inj (Option.some.inj h)).2, List.length_tail]
    cases cs with
    | nil => cases hquote
    | cons c cs => exact Nat.lt_succ_self _
  | case3 cs hnext hquote =>
    intro found rest h
    cases h

theorem length_lt_of_bytes? {cs rest : List Char} {bs : List UInt8}
    (h : bytes? cs = some (bs, rest)) : rest.length < cs.length := by
  unfold bytes? at h
  split at h
  · obtain ⟨found, hfound, heq⟩ := Option.map_eq_some_iff.mp h
    have hlength := length_lt_of_pieces? hfound
    rw [(Prod.mk.inj heq).2] at hlength
    exact Nat.lt_succ_of_lt hlength
  · cases h

/-- The quoted byte strings up to the closing bracket, which has to end the text. There is one at
least. -/
def items? (cs : List Char) : Option (List (List UInt8)) :=
  match _h : bytes? cs with
  | none => none
  | some (bs, rest) =>
    if rest = [']'] then some [bs]
    else if [',', ' '] <+: rest then (items? (rest.drop 2)).map fun others => bs :: others
    else none
termination_by cs.length
decreasing_by
  have hrest := length_lt_of_bytes? ‹_›
  rw [List.length_drop]
  omega

/-- The byte strings that a text lists. -/
def list? : List Char → Option (List (List UInt8))
  | '[' :: cs => if cs = [']'] then some [] else items? cs
  | _ => none

theorem bytes?_bytes (bs : List UInt8) (rest : List Char) :
    bytes? (bytes bs ++ rest) = some (bs, rest) := by
  have htext : bytes bs ++ rest
      = '"' :: ((Utf8.pieces bs).flatMap escapePiece ++ '"' :: rest) := by simp [bytes]
  rw [htext]
  show (pieces? _).map _ = _
  rw [pieces?_flatMap, Option.map_some, Utf8.flatMap_pieces]

theorem items?_of_bytes? {cs rest : List Char} {bs : List UInt8}
    (h : bytes? cs = some (bs, rest)) :
    items? cs
      = if rest = [']'] then some [bs]
        else if [',', ' '] <+: rest then (items? (rest.drop 2)).map fun others => bs :: others
        else none := by
  rw [items?]
  split
  · rename_i hbytes
    rw [h] at hbytes
    cases hbytes
  · rename_i hbytes
    rw [h] at hbytes
    cases hbytes
    rfl

theorem items?_intercalate (bss : List (List UInt8)) :
    ∀ bs : List UInt8,
      items? ([',', ' '].intercalate ((bs :: bss).map bytes) ++ [']']) = some (bs :: bss) := by
  induction bss with
  | nil =>
    intro bs
    rw [List.map_singleton, List.intercalate_singleton, items?_of_bytes? (bytes?_bytes bs [']'])]
    rfl
  | cons next bss ih =>
    intro bs
    have hfirst := bytes?_bytes bs
      ([',', ' '] ++ ([',', ' '].intercalate ((next :: bss).map bytes) ++ [']']))
    rw [List.map_cons, List.map_cons, List.intercalate_cons_cons, List.append_assoc,
      List.append_assoc, ← List.map_cons, items?_of_bytes? hfirst, if_neg (by simp),
      if_pos (List.prefix_append _ _)]
    rw [show ∀ cs : List Char, ([',', ' '] ++ cs).drop 2 = cs from fun _ => rfl, ih next]
    rfl

/-- **A list of byte strings is read back.** -/
theorem list?_bytesList (bss : List (List UInt8)) : list? (bytesList bss) = some bss := by
  cases bss with
  | nil => rfl
  | cons bs bss =>
    have htext : bytesList (bs :: bss)
        = '[' :: ([',', ' '].intercalate ((bs :: bss).map bytes) ++ [']']) := rfl
    have hne : [',', ' '].intercalate ((bs :: bss).map bytes) ++ [']'] ≠ [']'] := by
      intro h
      have hitems := items?_intercalate bss bs
      rw [h, items?] at hitems
      cases hitems
    rw [htext]
    show (if _ = [']'] then _ else _) = _
    rw [if_neg hne, items?_intercalate]

/-! ## What is written -/

theorem isPlain_of_isSome_worth? {c : Char} (h : (worth? c).isSome = true) : isPlain c = true := by
  obtain ⟨hlow, hhigh⟩ := toNat_of_isSome_worth? h
  have hless : c.val < 0x7F := UInt32.lt_iff_toNat_lt.mpr (Nat.lt_of_le_of_lt hhigh (by decide))
  rw [isPlain_of_lt hless]
  exact decide_eq_true (UInt32.le_iff_toNat_le.mpr (Nat.le_trans (by decide) hlow))

theorem isPlain_of_digits? {base n : Nat} {cs : List Char} (h : digits? base cs = some n) :
    ∀ c ∈ cs, isPlain c = true :=
  fun c hc => isPlain_of_isSome_worth? (isSome_worth?_of_mem h c hc)

theorem isPlain_of_named? {letter c : Char} (h : named? letter = some c) :
    isPlain letter = true := by
  by_contra hplain
  have hne : ∀ d : Char, isPlain d = true → letter ≠ d := by
    rintro d hd rfl
    exact hplain hd
  have hnone : named? letter = none := by
    simp only [named?, hne '"' (by decide), hne '\\' (by decide), hne 'n' (by decide),
      hne 'r' (by decide), hne 't' (by decide), hne '0' (by decide), if_false]
  rw [h] at hnone
  cases hnone

theorem isPlain_of_mem_escape (c : Char) : ∀ d ∈ escape c, isPlain d = true := by
  rcases escape_cases c with ⟨letter, hescape, hnamed⟩ | ⟨hescape, hplain, -, -⟩ | hescape
  · rw [hescape, List.forall_mem_cons, List.forall_mem_singleton]
    exact ⟨by decide, isPlain_of_named? hnamed⟩
  · rw [hescape, List.forall_mem_singleton]
    exact hplain
  · rw [hescape, List.forall_mem_append, List.forall_mem_append]
    exact ⟨⟨List.all_eq_true.mp rfl, isPlain_of_digits? (digits?_lowerHex 0 c.toNat)⟩,
      List.all_eq_true.mp rfl⟩

theorem isPlain_of_mem_escapeByte (b : UInt8) : ∀ d ∈ escapeByte b, isPlain d = true := by
  rw [escapeByte, List.forall_mem_append, List.forall_mem_append]
  exact ⟨⟨List.all_eq_true.mp rfl, isPlain_of_digits? (digits?_upperHex 0 _)⟩,
    isPlain_of_digits? (digits?_upperHex 0 _)⟩

theorem isPlain_of_mem_bytes (bs : List UInt8) : ∀ d ∈ bytes bs, isPlain d = true := by
  rw [bytes, List.forall_mem_append, List.forall_mem_append]
  refine ⟨⟨List.all_eq_true.mp rfl, fun d hd => ?_⟩, List.all_eq_true.mp rfl⟩
  obtain ⟨piece, -, hpiece⟩ := List.mem_flatMap.mp hd
  cases piece with
  | char c => exact isPlain_of_mem_escape c d hpiece
  | byte b => exact isPlain_of_mem_escapeByte b d hpiece

/-- **All that is written is plain**, whatever the bytes. -/
theorem isPlain_of_mem_bytesList (bss : List (List UInt8)) :
    ∀ d ∈ bytesList bss, isPlain d = true := by
  have hitems : ∀ d ∈ [',', ' '].intercalate (bss.map bytes), isPlain d = true := by
    induction bss with
    | nil => exact fun d hd => absurd hd List.not_mem_nil
    | cons bs bss ih =>
      cases bss with
      | nil =>
        rw [List.map_singleton, List.intercalate_singleton]
        exact isPlain_of_mem_bytes bs
      | cons next bss =>
        rw [List.map_cons, List.map_cons, List.intercalate_cons_cons, List.forall_mem_append,
          List.forall_mem_append]
        exact ⟨⟨isPlain_of_mem_bytes bs, List.all_eq_true.mp rfl⟩, ih⟩
  rw [bytesList, List.forall_mem_append, List.forall_mem_append]
  exact ⟨⟨List.all_eq_true.mp rfl, hitems⟩, List.all_eq_true.mp rfl⟩

end PrependList.Quoted
