import PrependList.Text.Utf8

/-!
# UTF-8 text

Reading accepts exactly what encoding produces. The code point that `leading?` computes without a
check is the right one where an encoding stands (`codePoint_utf8EncodeChar`), so a character that
was written is read back whatever comes behind it, and a byte string is text exactly if it is the
encodings of some characters, one after another.
-/

namespace PrependList.Utf8

theorem codePoint_utf8EncodeChar (c : Char) (rest : List UInt8) :
    codePoint (String.utf8EncodeChar c ++ rest) = c.toNat := by
  have hmax : c.val.toNat < 0x110000 := by
    rcases c.valid with h | ⟨_, h⟩
    · exact Nat.lt_trans h (by decide)
    · exact h
  rw [String.utf8EncodeChar]
  show _ = c.val.toNat
  generalize c.val.toNat = v at hmax ⊢
  -- the first byte says which of the four lengths it is, and each byte carries six bits or what is left
  split
  · simp only [List.cons_append, codePoint, UInt8.lt_iff_toNat_lt, UInt8.toNat_ofNat',
      UInt8.reduceToNat]
    rw [if_pos (by omega)]
    omega
  · split
    · simp only [List.cons_append, codePoint, payload, UInt8.lt_iff_toNat_lt, UInt8.toNat_ofNat',
        UInt8.reduceToNat, List.getD_cons_zero]
      rw [if_neg (by omega), if_pos (by omega)]
      omega
    · split
      · simp only [List.cons_append, codePoint, payload, UInt8.lt_iff_toNat_lt,
          UInt8.toNat_ofNat', UInt8.reduceToNat, List.getD_cons_zero, List.getD_cons_succ]
        rw [if_neg (by omega), if_neg (by omega), if_pos (by omega)]
        omega
      · simp only [List.cons_append, codePoint, payload, UInt8.lt_iff_toNat_lt,
          UInt8.toNat_ofNat', UInt8.reduceToNat, List.getD_cons_zero, List.getD_cons_succ]
        rw [if_neg (by omega), if_neg (by omega), if_neg (by omega)]
        omega

/-- **A character is read back**, whatever comes behind it. -/
theorem leading?_utf8EncodeChar (c : Char) (rest : List UInt8) :
    leading? (String.utf8EncodeChar c ++ rest) = some c := by
  have hprefix : (String.utf8EncodeChar c).isPrefixOf (String.utf8EncodeChar c ++ rest) = true :=
    List.isPrefixOf_iff_prefix.mpr (List.prefix_append _ _)
  rw [leading?, codePoint_utf8EncodeChar, Char.ofNat_toNat]
  exact if_pos hprefix

theorem piecesFrom_append (skipped rest : List UInt8) :
    piecesFrom skipped.length (skipped ++ rest) = piecesFrom 0 rest := by
  induction skipped with
  | nil => rfl
  | cons b skipped ih => exact ih

theorem pieces_utf8EncodeChar (c : Char) (rest : List UInt8) :
    pieces (String.utf8EncodeChar c ++ rest) = .char c :: pieces rest := by
  have hlength := String.length_utf8EncodeChar c
  have hpos := c.utf8Size_pos
  have hleading := leading?_utf8EncodeChar c rest
  cases hbytes : String.utf8EncodeChar c with
  | nil => rw [hbytes, List.length_nil] at hlength; omega
  | cons lead tail =>
    rw [hbytes, List.length_cons] at hlength
    rw [hbytes, List.cons_append] at hleading
    have htail : c.utf8Size - 1 = tail.length := by omega
    rw [List.cons_append, pieces, piecesFrom, hleading]
    dsimp only
    rw [htail, piecesFrom_append]
    rfl

/-- What was encoded is read as it was, character by character. -/
theorem pieces_flatMap_utf8EncodeChar (cs : List Char) :
    pieces (cs.flatMap String.utf8EncodeChar) = cs.map .char := by
  induction cs with
  | nil => rfl
  | cons c cs ih => rw [List.flatMap_cons, pieces_utf8EncodeChar, ih, List.map_cons]

/-- **A byte string is text exactly if it is what some characters are encoded as.** -/
theorem isText_iff {bytes : List UInt8} :
    isText bytes = true ↔ ∃ cs : List Char, bytes = cs.flatMap String.utf8EncodeChar := by
  constructor
  · intro h
    -- the pieces hold all bytes, and here all of them are characters
    have hchars : ∀ found : List Piece, found.all Piece.isChar = true →
        ∃ cs : List Char, found.flatMap Piece.bytes = cs.flatMap String.utf8EncodeChar := by
      intro found
      induction found with
      | nil => intro _; exact ⟨[], rfl⟩
      | cons piece found ih =>
        intro hall
        rw [List.all_cons, Bool.and_eq_true] at hall
        obtain ⟨cs, hcs⟩ := ih hall.2
        cases piece with
        | char c => exact ⟨c :: cs, by rw [List.flatMap_cons, hcs]; rfl⟩
        | byte b => exact absurd hall.1 (by simp [Piece.isChar])
    obtain ⟨cs, hcs⟩ := hchars (pieces bytes) h
    exact ⟨cs, by rw [← hcs, flatMap_pieces]⟩
  · rintro ⟨cs, rfl⟩
    rw [isText, pieces_flatMap_utf8EncodeChar, List.all_map]
    exact List.all_eq_true.mpr (fun _ _ => rfl)

end PrependList.Utf8
