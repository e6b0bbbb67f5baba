/-
  Binary floating point numbers of 64 bits by their exact values: a sign, a whole mantissa and a
  power of two. All reasoning about their decimal texts is done on these whole numbers.
-/

namespace DeltaDebug.Decimal

/-- A finite number `mantissa * 2 ^ exponent`, or its negative. -/
structure Binary where
  negative : Bool
  mantissa : Nat
  exponent : Int
deriving DecidableEq, Repr

/-- The finite number that the bits stand for. -/
def Binary.ofBits (bits : UInt64) : Binary :=
  let b : Nat := bits.toNat
  let fraction : Nat := b % 4503599627370496
  let field : Nat := b / 4503599627370496 % 2048
  { negative := b / 9223372036854775808 = 1
    mantissa := if field = 0 then fraction else fraction + 4503599627370496
    exponent := if field = 0 then -1074 else (field : Int) - 1075 }

/-- The bits of a number, as sixteen hexadecimal digits. -/
def bitsText (bits : UInt64) : String :=
  let digits := Nat.toDigits 16 bits.toNat
  String.ofList (List.replicate (16 - digits.length) '0' ++ digits)

end DeltaDebug.Decimal
