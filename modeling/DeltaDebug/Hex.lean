import DeltaDebug.Partition
import DeltaDebug.Text.Quoted

/-
  Byte strings as hexadecimal text: two digits per byte, the high half first, written in lower
  case and read in either case.
-/

namespace DeltaDebug.Hex

/-- The digits of one byte. -/
def pair (b : UInt8) : List Char :=
  [Text.lowerHexDigit (b.toNat / 16), Text.lowerHexDigit (b.toNat % 16)]

def encode (bytes : Candidate) : String :=
  String.ofList (bytes.flatMap pair)

/-- Why a text is not the text of a byte string. -/
inductive Fault where
  /-- The text has an odd number of bytes. -/
  | oddLength
  /-- The byte at this position is no digit. -/
  | digit (byte : UInt8) (position : Nat)
deriving DecidableEq, Repr

/-- The wording of a fault; a byte is shown as the character of that number. -/
def Fault.message : Fault → String
  | .oddLength => "Odd number of digits"
  | .digit b i => s!"Invalid character {Text.quotedChar (Char.ofNat b.toNat)} at position {i}"

/-- The value of a digit. -/
def digit? (b : UInt8) : Option UInt8 :=
  if 48 ≤ b ∧ b ≤ 57 then some (b - 48)
  else if 97 ≤ b ∧ b ≤ 102 then some (b - 87)
  else if 65 ≤ b ∧ b ≤ 70 then some (b - 55)
  else none

/-- Reads digits in pairs; `i` is the position of the first one in the whole text. -/
def decodePairs (i : Nat) : List UInt8 → Except Fault Candidate
  | [] => .ok []
  | [_] => .error .oddLength
  | hi :: lo :: rest =>
    match digit? hi, digit? lo with
    | none, _ => .error (.digit hi i)
    | some _, none => .error (.digit lo (i + 1))
    | some h, some l => (decodePairs (i + 2) rest).map ((h * 16 + l) :: ·)

/-- Reads a text of digits; its length is judged first. -/
def decode (text : String) : Except Fault Candidate :=
  let bytes := text.toUTF8.toList
  if bytes.length % 2 = 1 then .error .oddLength else decodePairs 0 bytes

end DeltaDebug.Hex
