import DeltaDebug.Json.Basic

/-
  The numbers of JSON texts. A whole number that fits in 64 bits is kept as it is. Every other
  number is the nearest binary number to its leading digits, scaled by a power of ten in one
  multiplication or division.
-/

namespace DeltaDebug.Json

/-- The largest whole number that a significand may hold. -/
def significandMax : Nat := 18446744073709551615

/-- Scales a significand by `10 ^ exponent`; `none` if the result is not finite. A power beyond
the range of binary numbers is divided out in steps, until nothing is left. -/
def scale : (steps : Nat) → Float → Int → Option Float
  | 0, f, _ => some f
  | steps + 1, f, exponent =>
    if exponent.natAbs ≤ 308 then
      let pow := Float.ofScientific 1 false exponent.natAbs
      if 0 ≤ exponent then
        let g := f * pow
        if g.isInf then none else some g
      else some (f / pow)
    else if f == 0.0 then some f
    else if 0 ≤ exponent then none
    else scale steps (f / 1e308) (exponent + 308)

def floatOfParts (negative : Bool) (significand : Nat) (exponent : Int) : Option Json :=
  (scale 8 significand.toUInt64.toFloat exponent).map fun f =>
    .float (if negative then -f else f).toBits

def digitValue (c : Char) : Nat := c.toNat - 48

/-- The digits of a number as long as the significand holds them: the significand, how many digits
were taken, and how many were left out. -/
def significand : (acc taken : Nat) → List Char → Nat × Nat × Nat
  | acc, taken, [] => (acc, taken, 0)
  | acc, taken, c :: rest =>
    let next := acc * 10 + digitValue c
    if significandMax < next then (acc, taken, rest.length + 1)
    else significand next (taken + 1) rest

/-- An exponent behind its mark: the sign and the digits. -/
def exponentPart (cs : List Char) : Option ((Bool × List Char) × List Char) :=
  let (negative, cs) := match cs with
    | '-' :: rest => (true, rest)
    | '+' :: rest => (false, rest)
    | _ => (false, cs)
  let digits := cs.takeWhile Char.isDigit
  if digits = [] then none else some ((negative, digits), cs.dropWhile Char.isDigit)

/-- The number `significand * 10 ^ (exponent ± digits)`. An exponent that does not fit in 31 bits
makes the number zero or too large. -/
def withExponent (negative : Bool) (significand : Nat) (exponent : Int)
    (expNegative : Bool) (digits : List Char) : Option Json :=
  let e := digits.foldl (fun n c => min (n * 10 + digitValue c) 2147483648) 0
  if 2147483648 ≤ e then
    if significand ≠ 0 && !expNegative then none
    else some (.float (if negative then -0.0 else 0.0 : Float).toBits)
  else floatOfParts negative significand (if expNegative then exponent - e else exponent + e)

/-- A whole number without fraction and exponent. -/
def wholeNumber (negative : Bool) (value left : Nat) : Option Json :=
  if 0 < left then floatOfParts negative value left
  else if !negative then some (.int value)
  else if value = 0 then some (.float (-0.0 : Float).toBits)
  else if value ≤ 9223372036854775808 then some (.int (-(value : Int)))
  else floatOfParts true value 0

/-- Reads an unsigned number behind its sign. -/
def unsigned (negative : Bool) (cs : List Char) : Option (Json × List Char) :=
  let digits := cs.takeWhile Char.isDigit
  let rest := cs.dropWhile Char.isDigit
  if digits = [] ∨ (digits.head? = some '0' ∧ digits.tail ≠ []) then none
  else
    let (whole, taken, left) := significand 0 0 digits
    match rest with
    | '.' :: rest =>
      let places := rest.takeWhile Char.isDigit
      let rest := rest.dropWhile Char.isDigit
      if places = [] then none
      else
        -- once the significand is full, further digits only count if they stand before the point
        let (value, takenAfter, _) := significand whole 0 places
        let exponent : Int := (left : Int) - (takenAfter : Int)
        match rest with
        | 'e' :: rest | 'E' :: rest => do
          let ((expNegative, digits), rest) ← exponentPart rest
          return (← withExponent negative value exponent expNegative digits, rest)
        | _ => do return (← floatOfParts negative value exponent, rest)
    | 'e' :: rest | 'E' :: rest => do
      let ((expNegative, digits), rest) ← exponentPart rest
      return (← withExponent negative whole left expNegative digits, rest)
    | _ => do
      let _ := taken
      return (← wholeNumber negative whole left, rest)

/-- Reads a number. -/
def number (cs : List Char) : Option (Json × List Char) :=
  match cs with
  | '-' :: rest => unsigned true rest
  | _ => unsigned false cs

end DeltaDebug.Json
