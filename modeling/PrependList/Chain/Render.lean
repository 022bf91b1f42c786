import PrependList.Chain.Basic
import PrependList.Text.Numeral

/-!
# The text of a chain

A chain is shown as its values in brackets, head first. A `Style` says how each value is written and
how the values are laid out; it is plain data, and the ten formats that have a name are ten of them.

A value is written as a lead (its sign, then the mark of its base) and digits, and is padded to the
width of the style. Padding with zeros goes between lead and digits; any other fill goes outside, on
the side or sides that the alignment leaves. A value longer than the width is not cut.
-/

namespace PrependList

inductive Radix where
  | decimal
  /-- Two's complement with the letters `a` to `f`. -/
  | lowerHex
  /-- Two's complement with the letters `A` to `F`. -/
  | upperHex
  deriving DecidableEq, Repr

/-- The side of its column at which a padded value stands. -/
inductive Align where
  | left
  /-- In the middle; of an odd number of fill characters one more goes to the right. -/
  | centre
  | right
  deriving DecidableEq, Repr

structure Style where
  radix : Radix := .decimal
  /-- One value per line; a value in base sixteen then carries a mark of its base. -/
  multiline : Bool := false
  /-- A plus before values that have no minus. -/
  plus : Bool := false
  width : Nat := 0
  align : Align := .right
  fill : Char := ' '
  /-- Zeros after the lead instead of fill around the value. -/
  zeros : Bool := false
  deriving DecidableEq, Repr

namespace Style

def sign (style : Style) (value : Int32) : List Char :=
  if style.radix = .decimal ∧ value.toInt < 0 then ['-']
  else if style.plus then ['+']
  else []

def mark (style : Style) : List Char :=
  if style.multiline ∧ style.radix ≠ .decimal then ['0', 'x'] else []

def lead (style : Style) (value : Int32) : List Char := style.sign value ++ style.mark

def digits (style : Style) (value : Int32) : List Char :=
  match style.radix with
  | .decimal => Numeral.decimal (Numeral.magnitude value)
  | .lowerHex => Numeral.lowerHex (Numeral.bits value)
  | .upperHex => Numeral.upperHex (Numeral.bits value)

/-- How many characters the value falls short of the width. -/
def gap (style : Style) (value : Int32) : Nat :=
  style.width - (style.lead value ++ style.digits value).length

/-- The fill before and after a value. -/
def sides (style : Style) (value : Int32) : Nat × Nat :=
  let gap := style.gap value
  match style.align with
  | .left => (0, gap)
  | .centre => (gap / 2, gap - gap / 2)
  | .right => (gap, 0)

/-- One value, padded. -/
def value (style : Style) (value : Int32) : List Char :=
  if style.zeros then
    style.lead value ++ List.replicate (style.gap value) '0' ++ style.digits value
  else
    List.replicate (style.sides value).1 style.fill ++ (style.lead value ++ style.digits value)
      ++ List.replicate (style.sides value).2 style.fill

/-- A value on a line of its own. -/
def row (style : Style) (value : Int32) : List Char :=
  [' ', ' ', ' ', ' '] ++ style.value value ++ [',', '\n']

/-- The values in brackets. An empty list is a pair of brackets in every style. -/
def values (style : Style) (values : List Int32) : List Char :=
  if style.multiline ∧ values ≠ [] then
    ['[', '\n'] ++ values.flatMap style.row ++ [']']
  else
    ['['] ++ [',', ' '].intercalate (values.map style.value) ++ [']']

end Style

/-- The formats that have a name. -/
inductive Format where
  | compact
  | multiline
  | lowerHex
  | upperHex
  | multilineHex
  | plus
  /-- Right-aligned in five columns. -/
  | right
  /-- Left-aligned in five columns. -/
  | left
  /-- Centred in seven columns between asterisks. -/
  | centre
  /-- Padded to five columns with zeros. -/
  | zeros
  deriving DecidableEq, Repr

def Format.style : Format → Style
  | compact => {}
  | multiline => { multiline := true }
  | lowerHex => { radix := .lowerHex }
  | upperHex => { radix := .upperHex }
  | multilineHex => { radix := .lowerHex, multiline := true }
  | plus => { plus := true }
  | right => { width := 5 }
  | left => { width := 5, align := .left }
  | centre => { width := 7, align := .centre, fill := '*' }
  | zeros => { width := 5, zeros := true }

namespace Chain

/-- The text of the chain in a format. -/
def text (chain : Chain) (format : Format) : List Char := format.style.values chain.nodes

/-- The text in the compact format. -/
def compactText (chain : Chain) : String := String.ofList (chain.text .compact)

end Chain

end PrependList
