import DeltaDebug.Regex.Parser

/-
  Regular expressions as programs: a graph of small instructions in which repetitions are
  unfolded. A text matches if a path through the graph reads a part of it.
-/

namespace DeltaDebug.Regex

/-- One instruction; numbers are the places of the instructions that follow. -/
inductive Inst where
  /-- Reads a byte of the set. -/
  | byte (s : CodeIndex) (next : Nat)
  /-- Reads the encoding of a character of the set. -/
  | char (s : CodeIndex) (next : Nat)
  /-- Goes on where a condition holds. -/
  | look (l : Look) (next : Nat)
  | split (a b : Nat)
  | accept

/-- A program: its instructions, and where it starts. -/
structure Program where
  insts : Array Inst
  start : Nat

/-- Instructions under construction. -/
abbrev Code := Array Inst

/-- Adds an instruction and tells its place. -/
def Code.add (code : Code) (i : Inst) : Nat × Code := (code.size, code.push i)

/-- Puts `times` copies of a part before `next`. -/
def copies (part : Nat → Code → Nat × Code) : (times next : Nat) → Code → Nat × Code
  | 0, next, code => (next, code)
  | times + 1, next, code =>
    let (next, code) := part next code
    copies part times next code

/-- Puts `times` copies of a part before `next`, each of which may be left out with all that come
after it. -/
def optionalCopies (part : Nat → Code → Nat × Code) (exit : Nat) : (times next : Nat) → Code →
    Nat × Code
  | 0, next, code => (next, code)
  | times + 1, next, code =>
    let (entry, code) := part next code
    let (next, code) := code.add (.split entry exit)
    optionalCopies part exit times next code

/-- Adds the instructions of a pattern that go on at `next`, and tells where they start. -/
def emit : Pattern → (next : Nat) → Code → Nat × Code
  | .empty, next, code => (next, code)
  | .byte s, next, code => code.add (.byte (.ofSet s) next)
  | .char s, next, code => code.add (.char (.ofSet s) next)
  | .look l, next, code => code.add (.look l next)
  | .seq p q, next, code =>
    let (middle, code) := emit q next code
    emit p middle code
  | .alt p q, next, code =>
    let (a, code) := emit p next code
    let (b, code) := emit q next code
    code.add (.split a b)
  | .rep p min none, next, code =>
    -- the place of the loop is needed inside it, so it is taken first and filled in later
    let (loop, code) := code.add .accept
    let (entry, code) := emit p loop code
    copies (emit p) min loop (code.setIfInBounds loop (.split entry next))
  | .rep p min (some max), next, code =>
    let (entry, code) := optionalCopies (emit p) next (max - min) next code
    copies (emit p) min entry code

/-- The program of a pattern. -/
def Program.ofPattern (p : Pattern) : Program :=
  let (start, code) := emit p 0 #[.accept]
  ⟨code, start⟩

end DeltaDebug.Regex
