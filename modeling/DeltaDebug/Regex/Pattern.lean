import DeltaDebug.Text.CodeSet

/-
  Regular expressions over bytes: what they are, apart from how they are written and matched.
-/

namespace DeltaDebug.Regex

/-- A condition on a position between bytes. With `unicode`, words are made of word characters of
any script, else of ASCII letters, digits and underscores. -/
inductive Look where
  | textStart
  | textEnd
  /-- At the start of a line; with `crlf`, carriage returns end lines too. -/
  | lineStart (crlf : Bool)
  | lineEnd (crlf : Bool)
  | wordBoundary (unicode : Bool)
  | notWordBoundary (unicode : Bool)
  | wordStart (unicode : Bool)
  | wordEnd (unicode : Bool)
  /-- No word character before. -/
  | wordStartHalf (unicode : Bool)
  /-- No word character behind. -/
  | wordEndHalf (unicode : Bool)
deriving DecidableEq

/-- A regular expression. -/
inductive Pattern where
  | empty
  /-- One byte of the set. -/
  | byte (s : CodeSet)
  /-- The encoding of one character of the set. -/
  | char (s : CodeSet)
  | look (l : Look)
  | seq (p q : Pattern)
  | alt (p q : Pattern)
  /-- At least `min` times, and at most `max` times if there is such a bound. -/
  | rep (p : Pattern) (min : Nat) (max : Option Nat)

namespace Pattern

def seqAll : List Pattern → Pattern
  | [] => .empty
  | [p] => p
  | p :: rest => .seq p (seqAll rest)

/-- One of the patterns; the list is not empty where this is used. -/
def altAll : List Pattern → Pattern
  | [] => .empty
  | [p] => p
  | p :: rest => .alt p (altAll rest)

/-- How many bytes the encoding of a code point takes. -/
def encodedLength (n : Nat) : Nat :=
  if n < 0x80 then 1 else if n < 0x800 then 2 else if n < 0x10000 then 3 else 4

/-- An estimate of the memory that the pattern takes once its repetitions are unfolded, in
bytes. -/
def weight : Pattern → Nat
  | .empty => 32
  | .byte _ => 32
  | .char [r] => 32 * encodedLength r.hi
  | .char s => 32 + 9 * s.foldl (fun n r => n + encodedLength r.hi) 0
  | .look _ => 32
  | .seq p q => p.weight + q.weight
  | .alt p q => p.weight + q.weight + 32
  | .rep p min none => (max min 1) * p.weight + 32
  | .rep p min (some m) => m * p.weight + (m - min + 1) * 32

end Pattern

end DeltaDebug.Regex
