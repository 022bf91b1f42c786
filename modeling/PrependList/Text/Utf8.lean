/-!
# Reading UTF-8

Command-line arguments are byte strings that need not be UTF-8. Both readings of one go from left
to right and take a whole character wherever one begins.

* `pieces` keeps everything: what is not part of a character stays as the byte it is, so the pieces
  determine the bytes.
* `lossy` is for messages: each broken sequence becomes one replacement character. A broken
  sequence is a longest beginning of a character's encoding that is not carried through, or else
  one byte.

`leading?` decides validity by encoding again. The code point that the bytes would stand for is
computed without any check, and accepted only if its encoding is what the bytes begin with; that
one test refuses overlong forms, surrogates, values past the last code point and bad continuation
bytes alike.
-/

namespace PrependList.Utf8

/-- One step of reading a byte string: a character, or a byte that belongs to none. -/
inductive Piece where
  | char (c : Char)
  | byte (b : UInt8)
  deriving DecidableEq, Repr

def Piece.isChar : Piece → Bool
  | .char _ => true
  | .byte _ => false

/-- The bytes a piece was read from. -/
def Piece.bytes : Piece → List UInt8
  | .char c => String.utf8EncodeChar c
  | .byte b => [b]

/-- The payload of the continuation byte at `i`; a missing byte carries zero. -/
def payload (bytes : List UInt8) (i : Nat) : Nat := (bytes.getD i 0).toNat % 64

/-- The code point that the first bytes would stand for, if they were a character. -/
def codePoint : List UInt8 → Nat
  | [] => 0
  | lead :: rest =>
    if lead < 0x80 then lead.toNat
    else if lead < 0xE0 then lead.toNat % 32 * 64 + payload rest 0
    else if lead < 0xF0 then lead.toNat % 16 * 4096 + payload rest 0 * 64 + payload rest 1
    else lead.toNat % 8 * 262144 + payload rest 0 * 4096 + payload rest 1 * 64 + payload rest 2

/-- The character whose encoding the bytes begin with. -/
def leading? (bytes : List UInt8) : Option Char :=
  let c := Char.ofNat (codePoint bytes)
  if (String.utf8EncodeChar c).isPrefixOf bytes then some c else none

theorem leading?_eq_some {bytes : List UInt8} {c : Char} (h : leading? bytes = some c) :
    String.utf8EncodeChar c <+: bytes := by
  simp only [leading?] at h
  split at h
  · rename_i hp
    cases h
    exact List.isPrefixOf_iff_prefix.mp hp
  · simp at h

/-- The pieces of the bytes that remain after `skip` of them, which belong to the piece before. -/
def piecesFrom : Nat → List UInt8 → List Piece
  | _, [] => []
  | skip + 1, _ :: bytes => piecesFrom skip bytes
  | 0, b :: bytes =>
    match leading? (b :: bytes) with
    | some c => .char c :: piecesFrom (c.utf8Size - 1) bytes
    | none => .byte b :: piecesFrom 0 bytes

/-- The byte string cut into characters and bytes that belong to none. -/
def pieces (bytes : List UInt8) : List Piece := piecesFrom 0 bytes

/-- Whether all bytes belong to characters. -/
def isText (bytes : List UInt8) : Bool := (pieces bytes).all Piece.isChar

theorem flatMap_piecesFrom (bytes : List UInt8) :
    ∀ skip, (piecesFrom skip bytes).flatMap Piece.bytes = bytes.drop skip := by
  induction bytes with
  | nil => intro skip; simp [piecesFrom]
  | cons b bytes ih =>
    intro skip
    cases skip with
    | succ skip => simpa [piecesFrom] using ih skip
    | zero =>
      simp only [piecesFrom, List.drop_zero]
      split
      · rename_i c h
        obtain ⟨rest, hrest⟩ := leading?_eq_some h
        have hlen := String.length_utf8EncodeChar c
        have hpos := c.utf8Size_pos
        have hdrop : bytes.drop (c.utf8Size - 1) = rest := by
          have hcons := congrArg (List.drop c.utf8Size) hrest
          rw [← hlen, List.drop_left, hlen] at hcons
          obtain ⟨k, hk⟩ : ∃ k, c.utf8Size = k + 1 := ⟨c.utf8Size - 1, by omega⟩
          rw [hk, List.drop_succ_cons] at hcons
          rw [hk, Nat.add_sub_cancel, hcons]
        rw [List.flatMap_cons, ih, hdrop]
        exact hrest
      · rw [List.flatMap_cons, ih]
        rfl

/-- Nothing is lost: the pieces hold all bytes, in order. -/
theorem flatMap_pieces (bytes : List UInt8) : (pieces bytes).flatMap Piece.bytes = bytes :=
  flatMap_piecesFrom bytes 0

def isContinuation (b : UInt8) : Bool := 0x80 ≤ b && b ≤ 0xBF

/-- Whether a character of three or four bytes can begin with these two. -/
def opensLong (lead second : UInt8) : Bool :=
  if lead = 0xE0 then 0xA0 ≤ second && second ≤ 0xBF
  else if lead = 0xED then 0x80 ≤ second && second ≤ 0x9F
  else if lead = 0xF0 then 0x90 ≤ second && second ≤ 0xBF
  else if lead = 0xF4 then 0x80 ≤ second && second ≤ 0x8F
  else 0xE1 ≤ lead && lead ≤ 0xF3 && isContinuation second

/-- How many bytes after the first one a broken sequence takes with it. -/
def brokenTail (lead : UInt8) : List UInt8 → Nat
  | [] => 0
  | [second] => if opensLong lead second then 1 else 0
  | second :: third :: _ =>
    if opensLong lead second then
      if 0xF0 ≤ lead && isContinuation third then 2 else 1
    else 0

/-- Stands for a broken sequence. -/
def replacement : Char := '\uFFFD'

/-- The characters of the bytes that remain after `skip` of them, broken sequences replaced. -/
def lossyFrom : Nat → List UInt8 → List Char
  | _, [] => []
  | skip + 1, _ :: bytes => lossyFrom skip bytes
  | 0, b :: bytes =>
    match leading? (b :: bytes) with
    | some c => c :: lossyFrom (c.utf8Size - 1) bytes
    | none => replacement :: lossyFrom (brokenTail b bytes) bytes

/-- The byte string as text, with a replacement character for each broken sequence. -/
def lossy (bytes : List UInt8) : List Char := lossyFrom 0 bytes

end PrependList.Utf8
