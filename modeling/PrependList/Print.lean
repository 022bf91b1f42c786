import PrependList.Text.Numeral
import PrependList.Writer.Basic

/-!
# Printing values

A value is printed as a blank, a minus if it is negative, and its digits. These are separate texts,
each written until nothing of it is left, and the first that fails ends the value: a blank or a sign
that was already taken stays.
-/

namespace PrependList.Print

variable {σ : Type}

/-- The texts of one value, in the order in which they are written. -/
def pieces (value : Int32) : List (List Char) :=
  if value.toInt < 0 then [[' '], ['-'], Numeral.decimal (Numeral.magnitude value)]
  else [[' '], Numeral.decimal (Numeral.magnitude value)]

/-- All that is written for one value if nothing fails. -/
def text (value : Int32) : List Char := ' ' :: Numeral.signed value

theorem flatten_pieces (value : Int32) : (pieces value).flatten = text value := by
  simp only [pieces, text, Numeral.signed, Numeral.sign]
  split <;> simp

def int (writer : Writer σ) (out : Outlet σ) (value : Int32) : Except IoError Unit × Outlet σ :=
  out.writePieces writer (pieces value)

/-- Prints the values one after another, whatever comes of each; one result for each value. -/
def ints (writer : Writer σ) (out : Outlet σ) :
    List Int32 → List (Except IoError Unit) × Outlet σ
  | [] => ([], out)
  | value :: values =>
    let (result, out) := int writer out value
    let (results, out) := ints writer out values
    (result :: results, out)

/-- Prints the value unless something has failed before. -/
def unlessFailed (writer : Writer σ) :
    Except IoError Unit × Outlet σ → Int32 → Except IoError Unit × Outlet σ
  | (.ok (), out), value => int writer out value
  | (.error error, out), _ => (.error error, out)

end PrependList.Print
