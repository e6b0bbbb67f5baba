import DeltaDebug.Regex.Program
import DeltaDebug.Text.Utf8

/-
  Matching: all paths through a program are followed at once, position by position, so that the
  time is linear in the text whatever the pattern.
-/

namespace DeltaDebug.Regex

def wordIndex : CodeIndex := .ofSet Text.wordCodes

def isAsciiWord (b : UInt8) : Bool :=
  (48 ≤ b && b ≤ 57) || (65 ≤ b && b ≤ 90) || b = 95 || (97 ≤ b && b ≤ 122)

/-- Whether a word character stands before a position; `none` if what stands there is no
character. -/
def wordBefore? (unicode : Bool) (text : ByteArray) (i : Nat) : Option Bool :=
  if i = 0 then some false
  else if unicode then (Text.decodeBefore text i).map wordIndex.contains
  else some ((text[i - 1]?).any isAsciiWord)

/-- Whether a word character stands behind a position; `none` if what stands there is no
character. -/
def wordAfter? (unicode : Bool) (text : ByteArray) (i : Nat) : Option Bool :=
  if text.size ≤ i then some false
  else if unicode then (Text.decodeAt text i).map fun (c, _) => wordIndex.contains c
  else some ((text[i]?).any isAsciiWord)

/-- Whether a condition holds at a position. What is not a character is not part of a word, but
conditions that need the absence of a word do not hold beside it. -/
def Look.holds (l : Look) (text : ByteArray) (i : Nat) : Bool :=
  let byteBefore (b : UInt8) : Bool := 0 < i && text[i - 1]? == some b
  let byteAfter (b : UInt8) : Bool := text[i]? == some b
  match l with
  | .textStart => i = 0
  | .textEnd => i = text.size
  | .lineStart false => i = 0 || byteBefore 10
  | .lineStart true => i = 0 || byteBefore 10 || (byteBefore 13 && !byteAfter 10)
  | .lineEnd false => i = text.size || byteAfter 10
  | .lineEnd true => i = text.size || byteAfter 13 || (byteAfter 10 && !byteBefore 13)
  | .wordBoundary u =>
    (wordBefore? u text i).getD false != (wordAfter? u text i).getD false
  | .notWordBoundary u =>
    match wordBefore? u text i, wordAfter? u text i with
    | some a, some b => a == b
    | _, _ => false
  | .wordStart u => !(wordBefore? u text i).getD false && (wordAfter? u text i).getD false
  | .wordEnd u => (wordBefore? u text i).getD false && !(wordAfter? u text i).getD false
  | .wordStartHalf u => wordBefore? u text i == some false
  | .wordEndHalf u => wordAfter? u text i == some false

/-- The places to go on from at the next four positions. -/
structure Ahead where
  one : List Nat := []
  two : List Nat := []
  three : List Nat := []
  four : List Nat := []

def Ahead.add (a : Ahead) (distance place : Nat) : Ahead :=
  match distance with
  | 1 => { a with one := place :: a.one }
  | 2 => { a with two := place :: a.two }
  | 3 => { a with three := place :: a.three }
  | _ => { a with four := place :: a.four }

/-- Follows all paths from the places on the stack without going past position `i`. `seen` tells
for each place at which position, counted from 1, it was last visited. The result is `none` once
the end of the program is reached. -/
def explore (p : Program) (text : ByteArray) (i : Nat) (here : Option (Nat × Nat)) :
    (fuel : Nat) → (stack : List Nat) → (seen : Array Nat) → Ahead → Option (Array Nat × Ahead)
  | 0, _, seen, ahead => some (seen, ahead)
  | _, [], seen, ahead => some (seen, ahead)
  | fuel + 1, place :: stack, seen, ahead =>
    if seen.getD place 0 = i + 1 then explore p text i here fuel stack seen ahead
    else
      let seen := seen.setIfInBounds place (i + 1)
      match p.insts[place]? with
      | none => explore p text i here fuel stack seen ahead
      | some .accept => none
      | some (.split a b) => explore p text i here fuel (a :: b :: stack) seen ahead
      | some (.look l next) =>
        if l.holds text i then explore p text i here fuel (next :: stack) seen ahead
        else explore p text i here fuel stack seen ahead
      | some (.byte s next) =>
        match text[i]? with
        | some b =>
          if s.contains b.toNat then explore p text i here fuel stack seen (ahead.add 1 next)
          else explore p text i here fuel stack seen ahead
        | none => explore p text i here fuel stack seen ahead
      | some (.char s next) =>
        match here with
        | some (c, len) =>
          if s.contains c then explore p text i here fuel stack seen (ahead.add len next)
          else explore p text i here fuel stack seen ahead
        | none => explore p text i here fuel stack seen ahead

/-- Whether a path that starts at position `i` or later, or goes on from there, reaches the end of
the program. `left` is the number of positions still to come. -/
def matchFrom (p : Program) (text : ByteArray) : (left i : Nat) → (here : List Nat) → Array Nat →
    Ahead → Bool
  | left, i, stack, seen, ahead =>
    let fuel := stack.length + 2 * p.insts.size + 3
    match explore p text i (Text.decodeAt text i) fuel (p.start :: stack) seen ahead with
    | none => true
    | some (seen, ahead) =>
      match left with
      | 0 => false
      | left + 1 =>
        matchFrom p text left (i + 1) ahead.one seen ⟨ahead.two, ahead.three, ahead.four, []⟩

/-- Whether the program reads some part of the text. -/
def Program.isMatch (p : Program) (text : ByteArray) : Bool :=
  matchFrom p text text.size 0 [] (Array.replicate p.insts.size 0) {}

end DeltaDebug.Regex

namespace DeltaDebug

/-- A regular expression with the text it was written as. -/
structure Regex where
  text : String
  program : Regex.Program

namespace Regex

/-- Reads a regular expression. -/
def ofText? (text : String) : Option Regex :=
  (parse text).map fun p => ⟨text, .ofPattern p⟩

/-- Whether the expression matches some part of the bytes. -/
def matchesBytes (r : Regex) (bytes : Candidate) : Bool :=
  r.program.isMatch ⟨bytes.toArray⟩

end Regex

end DeltaDebug
