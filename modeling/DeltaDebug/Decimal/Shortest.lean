import DeltaDebug.Decimal.Binary64

/-
  The shortest decimal text of a binary number: the fewest digits that read back as the number,
  and of those the nearest to it.
-/

namespace DeltaDebug.Decimal

/-- The number `digits * 10 ^ exponent`. -/
structure Digits where
  digits : Nat
  exponent : Int
deriving DecidableEq, Repr

/-- The reals that round to a positive number `m * 2 ^ e`, as multiples of `1 / den`: from `low`
to `high`, with the ends if `m` is even. -/
structure Interval where
  low : Nat
  value : Nat
  high : Nat
  den : Nat
  closed : Bool

/-- The neighbour below is nearer when the mantissa is the least of its binade. -/
def Interval.ofBinary (x : Binary) : Interval :=
  let scale : Nat := 4
  let up := Nat.pow 2 x.exponent.toNat
  let den := scale * Nat.pow 2 (-x.exponent).toNat
  let least := x.mantissa = 4503599627370496 ∧ -1074 < x.exponent
  { low := (scale * x.mantissa - if least then 1 else 2) * up
    value := scale * x.mantissa * up
    high := (scale * x.mantissa + 2) * up
    den := den
    closed := x.mantissa % 2 = 0 }

/-- Whether `d * 10 ^ p` reads back as the number. -/
def Interval.holds (t : Interval) (d : Nat) (p : Int) : Bool :=
  let n := d * Nat.pow 10 p.toNat * t.den
  let scale := Nat.pow 10 (-p).toNat
  if t.closed then t.low * scale ≤ n && n ≤ t.high * scale
  else t.low * scale < n && n < t.high * scale

/-- The least `p` with `value / den < 10 ^ p`, for a value that is not 0. -/
def magnitude (value den : Nat) : Int :=
  if den ≤ value then ((Nat.toDigits 10 (value / den)).length : Int)
  else
    -- the number of zeros behind the point
    let k := (Nat.toDigits 10 ((den - 1) / value)).length
    if Nat.pow 10 k * value < den then -(k : Int) else 1 - (k : Int)

/-- The best number of `count` digits for the interval, if one reads back. -/
def Interval.atGrid (t : Interval) (count : Nat) : Option Digits :=
  let p := magnitude t.value t.den - count
  let num := t.value * Nat.pow 10 (-p).toNat
  let den := t.den * Nat.pow 10 p.toNat
  let below := num / den
  let nearBelow := 2 * (num % den) ≤ den
  match t.holds below p, t.holds (below + 1) p with
  | true, true => some ⟨if nearBelow then below else below + 1, p⟩
  | true, false => some ⟨below, p⟩
  | false, true => some ⟨below + 1, p⟩
  | false, false => none

/-- The first grid that holds a number which reads back; seventeen digits always do. -/
def shortestFrom (t : Interval) : (left count : Nat) → Digits
  | 0, count => (t.atGrid count).getD ⟨0, 0⟩
  | left + 1, count => (t.atGrid count).getD (shortestFrom t left (count + 1))

/-- Drops zeros at the end of the digits. -/
def Digits.trim (d : Digits) : (steps : Nat) → Digits
  | 0 => d
  | steps + 1 =>
    if d.digits ≠ 0 ∧ d.digits % 10 = 0 then trim ⟨d.digits / 10, d.exponent + 1⟩ steps else d

/-- The shortest decimal for the absolute value of a finite number. -/
def shortest (x : Binary) : Digits :=
  if x.mantissa = 0 then ⟨0, 0⟩
  else (shortestFrom (.ofBinary x) 16 1).trim 20

/-- Digits in positional notation, with at least one digit on each side of the point. -/
def Digits.positional (d : Digits) : String :=
  let text := Nat.toDigits 10 d.digits
  if 0 ≤ d.exponent then
    String.ofList (text ++ List.replicate d.exponent.toNat '0') ++ ".0"
  else
    let places := (-d.exponent).toNat
    let padded := List.replicate (places + 1 - text.length) '0' ++ text
    let whole := padded.length - places
    String.ofList (padded.take whole ++ '.' :: padded.drop whole)

/-- Digits in scientific notation: one digit before the point, none behind it if they are few. -/
def Digits.scientific (d : Digits) : String :=
  match Nat.toDigits 10 d.digits with
  | [] => "0e0"
  | first :: rest =>
    let fraction := if rest = [] then [] else '.' :: rest
    let power : Int := d.exponent + rest.length
    String.ofList (first :: fraction) ++ "e" ++ toString power

def signText (bits : UInt64) : String :=
  if (Binary.ofBits bits).negative then "-" else ""

/-- Which numbers are written positionally: those from `10 ^ (least - 1)` up to `10 ^ most`. -/
structure Style where
  least : Int
  most : Int

/-- A finite number, positional or scientific as the style says. -/
def text (style : Style) (bits : UInt64) : String :=
  let d := shortest (.ofBits bits)
  let power : Int := d.exponent + (Nat.toDigits 10 d.digits).length
  signText bits ++
    if d.digits = 0 ∨ (style.least ≤ power ∧ power ≤ style.most) then d.positional
    else d.scientific

end DeltaDebug.Decimal
