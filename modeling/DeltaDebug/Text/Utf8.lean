import DeltaDebug.Partition

/-
  UTF-8 in byte strings that need not be well-formed throughout.
-/

namespace DeltaDebug.Text

/-- Whether the byte continues an encoding. -/
def isContinuation (b : UInt8) : Bool := 0x80 ≤ b && b < 0xc0

/-- The code point whose encoding starts at a position and ends before `stop`, with the length of
the encoding. Only the shortest encodings count, and none of surrogates. -/
def decodeWithin (bytes : ByteArray) (i stop : Nat) : Option (Nat × Nat) :=
  let cont (k : Nat) : Option Nat :=
    if stop ≤ i + k then none
    else match bytes[i + k]? with
      | some b => if isContinuation b then some (b.toNat - 0x80) else none
      | none => none
  match bytes[i]? with
  | none => none
  | some b =>
    if stop ≤ i then none
    else if b < 0x80 then some (b.toNat, 1)
    else if b < 0xc2 then none
    else if b < 0xe0 then do
      return ((b.toNat - 0xc0) * 64 + (← cont 1), 2)
    else if b < 0xf0 then do
      let n := ((b.toNat - 0xe0) * 64 + (← cont 1)) * 64 + (← cont 2)
      if n < 0x800 ∨ (0xd800 ≤ n ∧ n ≤ 0xdfff) then none else return (n, 3)
    else if b < 0xf5 then do
      let n := (((b.toNat - 0xf0) * 64 + (← cont 1)) * 64 + (← cont 2)) * 64 + (← cont 3)
      if n < 0x10000 ∨ 0x10ffff < n then none else return (n, 4)
    else none

/-- The code point whose encoding starts at a position, with the length of the encoding. -/
def decodeAt (bytes : ByteArray) (i : Nat) : Option (Nat × Nat) := decodeWithin bytes i bytes.size

/-- Where the character before position `i` starts, looking back over at most three continuation
bytes. -/
def characterStart (bytes : ByteArray) (i : Nat) : (steps : Nat) → Nat
  | 0 => i
  | steps + 1 =>
    match bytes[i]? with
    | some b => if isContinuation b && 0 < i then characterStart bytes (i - 1) steps else i
    | none => i

/-- The code point before a position that is not the first one. -/
def decodeBefore (bytes : ByteArray) (i : Nat) : Option Nat :=
  (decodeWithin bytes (characterStart bytes (i - 1) 3) i).map (·.1)

/-- The text of a byte string, if it is well-formed. -/
def decode? (bytes : Candidate) : Option String :=
  String.fromUTF8? ⟨bytes.toArray⟩

/-- The bytes of a text. -/
def encode (s : String) : Candidate := s.toUTF8.toList

end DeltaDebug.Text
