/-!
# Numerals

How numbers are written: natural numbers in base ten or sixteen, most significant digit first and
without leading zeros, and 32-bit integers as a sign followed by the digits of the magnitude.

The sign and the magnitude are taken in `Int`, where the least 32-bit integer has a magnitude like
every other; nothing here is ever negated inside 32 bits.
-/

namespace PrependList.Numeral

/-- The decimal digits of `n`; zero is the single digit `0`. -/
def decimal (n : Nat) : List Char := Nat.toDigits 10 n

/-- The digits of `n` in base sixteen, with the letters `a` to `f`. -/
def lowerHex (n : Nat) : List Char := Nat.toDigits 16 n

/-- The digits of `n` in base sixteen, with the letters `A` to `F`. -/
def upperHex (n : Nat) : List Char := (lowerHex n).map Char.toUpper

/-- A minus before a negative value, nothing before the others. -/
def sign (value : Int32) : List Char := if value.toInt < 0 then ['-'] else []

def magnitude (value : Int32) : Nat := value.toInt.natAbs

/-- The sign, then the decimal digits of the magnitude. -/
def signed (value : Int32) : List Char := sign value ++ decimal (magnitude value)

/-- The 32 bits of `value`, read as an unsigned number: its two's complement. -/
def bits (value : Int32) : Nat := value.toUInt32.toNat

def ofNat (n : Nat) : String := String.ofList (decimal n)

def ofInt32 (value : Int32) : String := String.ofList (signed value)

end PrependList.Numeral
