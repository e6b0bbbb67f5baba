/-
  A place in a YAML text, and the classes of characters that matter there.
-/

namespace DeltaDebug.Yaml

/-- The rest of the text, with the position of its first character. -/
structure Cursor where
  rest : List Char
  index : Nat := 0
  line : Nat := 0
  column : Nat := 0

def isBreak (c : Char) : Bool :=
  c = '\n' || c = '\r' || c.toNat = 0x85 || c.toNat = 0x2028 || c.toNat = 0x2029

def isBlank (c : Char) : Bool := c = ' ' || c = '\t'

/-- Letters, digits and the two signs that names may hold. -/
def isWord (c : Char) : Bool := c.isAlphanum || c = '-' || c = '_'

/-- Whether a character may stand in a text at all. -/
def isAllowed (c : Char) : Bool :=
  let n := c.toNat
  n = 9 || n = 10 || n = 13 || (0x20 ≤ n && n ≤ 0x7e) || n = 0x85 || (0xa0 ≤ n && n ≤ 0xd7ff)
    || (0xe000 ≤ n && n ≤ 0xfffd) || 0x10000 ≤ n

namespace Cursor

/-- The character `k` places ahead. -/
def peek (c : Cursor) (k : Nat) : Option Char := c.rest[k]?

/-- Whether the character `k` places ahead is that one. -/
def at? (c : Cursor) (k : Nat) (x : Char) : Bool := c.peek k == some x

def atBreak (c : Cursor) : Bool := (c.peek 0).any isBreak

/-- Whether the text ends here, or the line does. -/
def atBreakOrEnd (c : Cursor) : Bool := (c.peek 0).all isBreak

def atBlank (c : Cursor) : Bool := (c.peek 0).any isBlank

/-- Whether a blank, a line end or the end of the text stands `k` places ahead. -/
def blankOrEndAt (c : Cursor) (k : Nat) : Bool :=
  (c.peek k).all fun x => isBlank x || isBreak x

/-- Moves over one character of a line. -/
def skip (c : Cursor) : Cursor :=
  match c.rest with
  | [] => c
  | _ :: rest => { c with rest := rest, index := c.index + 1, column := c.column + 1 }

def skipMany (c : Cursor) : Nat → Cursor
  | 0 => c
  | n + 1 => c.skip.skipMany n

/-- Moves over a line end; the two characters of a carriage return and a line feed are one. -/
def skipLine (c : Cursor) : Cursor :=
  match c.rest with
  | '\r' :: '\n' :: rest => ⟨rest, c.index + 2, c.line + 1, 0⟩
  | x :: rest => if isBreak x then ⟨rest, c.index + 1, c.line + 1, 0⟩ else c
  | [] => c

/-- The line end here as it is kept in scalars. -/
def lineBreak (c : Cursor) : List Char :=
  match c.peek 0 with
  | some x =>
    if x.toNat = 0x2028 ∨ x.toNat = 0x2029 then [x] else if isBreak x then ['\n'] else []
  | none => []

/-- Moves on as long as the characters satisfy a condition. -/
def skipWhile (p : Char → Bool) (c : Cursor) : Cursor :=
  c.skipMany (c.rest.takeWhile p).length

/-- Whether a document mark of three such characters stands at the start of the line. -/
def documentMark (c : Cursor) (x : Char) : Bool :=
  c.column = 0 && c.at? 0 x && c.at? 1 x && c.at? 2 x && c.blankOrEndAt 3

end Cursor

end DeltaDebug.Yaml
