import PrependList.Text.Numeral
import PrependList.Text.Plain
import PrependList.Text.Utf8

/-!
# Quoted text

Text and byte strings in double quotes, written so that they fit on one line and can be read back.
A quote and a backslash get a backslash before them. The four control characters with a letter of
their own (`\n`, `\r`, `\t`, `\0`) use it, every other character that is not plain is its code
point in base sixteen within braces, and a byte that belongs to no character is `\x` with two digits.
Plain characters stand for themselves. No two escapes begin alike, and none looks like a character
that stands for itself, so a quoted text determines what was quoted.
-/

namespace PrependList.Quoted

def escape (c : Char) : List Char :=
  if c = '"' then ['\\', '"']
  else if c = '\\' then ['\\', '\\']
  else if c = '\n' then ['\\', 'n']
  else if c = '\r' then ['\\', 'r']
  else if c = '\t' then ['\\', 't']
  else if c = '\x00' then ['\\', '0']
  else if isPlain c then [c]
  else ['\\', 'u', '\x7b'] ++ Numeral.lowerHex c.toNat ++ ['\x7d']

/-- The two digits of a byte, after a mark that no escaped character has. -/
def escapeByte (b : UInt8) : List Char :=
  ['\\', 'x'] ++ Numeral.upperHex (b.toNat / 16) ++ Numeral.upperHex (b.toNat % 16)

def escapePiece : Utf8.Piece → List Char
  | .char c => escape c
  | .byte b => escapeByte b

/-- Text in quotes. -/
def text (cs : List Char) : List Char := ['"'] ++ cs.flatMap escape ++ ['"']

/-- A byte string in quotes. -/
def bytes (bs : List UInt8) : List Char := ['"'] ++ (Utf8.pieces bs).flatMap escapePiece ++ ['"']

/-- Quoted byte strings in brackets, with a comma and a blank between them. -/
def bytesList (bss : List (List UInt8)) : List Char :=
  ['['] ++ ([',', ' '].intercalate (bss.map bytes)) ++ [']']

end PrependList.Quoted
