/-
  Patterns of the command language: a star, a question mark and bracketed sets stand for
  characters unless they are quoted.
-/

namespace DeltaDebug.Shell

/-- A character of a pattern; it can stand for others only while `active`. -/
structure Glyph where
  char : Char
  active : Bool
deriving DecidableEq

/-- What a piece of a pattern stands for. -/
inductive Atom where
  | one (c : Char)
  | anyOne
  | anyMany
  /-- A character in one of the ranges or named classes, or in none of them. -/
  | oneOf (negated : Bool) (ranges : List (Char × Char)) (classes : List String)

namespace Glob

/-- Whether a character belongs to a class of that name. -/
def inClass (name : String) (c : Char) : Bool :=
  match name with
  | "alpha" => c.isAlpha
  | "digit" => c.isDigit
  | "alnum" => c.isAlphanum
  | "upper" => c.isUpper
  | "lower" => c.isLower
  | "space" => c = ' ' || ('\t' ≤ c && c ≤ '\r')
  | "blank" => c = ' ' || c = '\t'
  | "punct" => '!' ≤ c && c ≤ '~' && !c.isAlphanum
  | "print" => ' ' ≤ c && c ≤ '~'
  | "graph" => '!' ≤ c && c ≤ '~'
  | "cntrl" => c < ' ' || c = '\x7f'
  | "xdigit" => c.isDigit || ('a' ≤ c && c ≤ 'f') || ('A' ≤ c && c ≤ 'F')
  | _ => false

/-- The name of a class written between `[:` and `:]`, and what follows it. -/
def className (gs : List Glyph) : Option (String × List Glyph) :=
  let name := gs.takeWhile fun g => g.char.isAlpha
  match gs.drop name.length with
  | ⟨':', _⟩ :: ⟨']', _⟩ :: rest => some (String.ofList (name.map (·.char)), rest)
  | _ => none

/-- The members of a bracketed set, up to its closing bracket. -/
def members : (fuel : Nat) → (first : Bool) → List Glyph → List (Char × Char) → List String →
    Option (List (Char × Char) × List String × List Glyph)
  | 0, _, _, _, _ => none
  | fuel + 1, first, gs, ranges, classes =>
    match gs with
    | [] => none
    | ⟨']', true⟩ :: rest =>
      if first then members fuel false rest ((']', ']') :: ranges) classes
      else some (ranges, classes, rest)
    | ⟨'[', true⟩ :: ⟨':', true⟩ :: rest =>
      match className rest with
      | some (name, rest) => members fuel false rest ranges (name :: classes)
      | none => members fuel false (⟨':', true⟩ :: rest) (('[', '[') :: ranges) classes
    | ⟨c, _⟩ :: ⟨'-', true⟩ :: ⟨d, q⟩ :: rest =>
      if d = ']' ∧ q then members fuel false (⟨'-', true⟩ :: ⟨d, q⟩ :: rest) ((c, c) :: ranges) classes
      else members fuel false rest ((c, d) :: ranges) classes
    | ⟨c, _⟩ :: rest => members fuel false rest ((c, c) :: ranges) classes

/-- The pieces of a pattern. A bracket that is never closed stands for itself. -/
def atoms : (fuel : Nat) → List Glyph → List Atom
  | 0, _ => []
  | fuel + 1, gs =>
    match gs with
    | [] => []
    | ⟨'*', true⟩ :: rest => .anyMany :: atoms fuel rest
    | ⟨'?', true⟩ :: rest => .anyOne :: atoms fuel rest
    | ⟨'[', true⟩ :: rest =>
      let (negated, body) := match rest with
        | ⟨'!', true⟩ :: body => (true, body)
        | ⟨'^', true⟩ :: body => (true, body)
        | body => (false, body)
      match members (body.length + 1) true body [] [] with
      | some (ranges, classes, rest) => .oneOf negated ranges classes :: atoms fuel rest
      | none => .one '[' :: atoms fuel rest
    | ⟨c, _⟩ :: rest => .one c :: atoms fuel rest

/-- What is left of a text behind each of its starts, all of it first. -/
def suffixes : List Char → List (List Char)
  | [] => [[]]
  | c :: cs => (c :: cs) :: suffixes cs

/-- Whether the pieces stand for the text. -/
def fits : List Atom → List Char → Bool
  | [], cs => cs.isEmpty
  | .anyMany :: rest, cs => (suffixes cs).any (fits rest)
  | .anyOne :: rest, cs =>
    match cs with
    | _ :: cs => fits rest cs
    | [] => false
  | .one c :: rest, cs =>
    match cs with
    | d :: cs => c = d && fits rest cs
    | [] => false
  | .oneOf negated ranges classes :: rest, cs =>
    match cs with
    | d :: cs =>
      let inside := ranges.any (fun (lo, hi) => lo ≤ d && d ≤ hi) || classes.any (inClass · d)
      (inside != negated) && fits rest cs
    | [] => false

end Glob

/-- Whether a pattern stands for a text. -/
def globMatches (pattern : List Glyph) (text : List Char) : Bool :=
  Glob.fits (Glob.atoms (pattern.length + 1) pattern) text

/-- Whether a pattern has anything in it that stands for other characters. -/
def hasGlob (pattern : List Glyph) : Bool :=
  pattern.any fun g => g.active && (g.char = '*' || g.char = '?' || g.char = '[')

end DeltaDebug.Shell
