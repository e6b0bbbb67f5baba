import DeltaDebug.Regex.Pattern
import DeltaDebug.Text.CaseFold
import DeltaDebug.Text.Property
import DeltaDebug.Text.Script

/-
  Named character classes, and the operations on classes that depend on whether a pattern speaks
  of characters or of bytes.
-/

namespace DeltaDebug.Regex

/-- The switches that change the meaning of what follows. -/
structure Flags where
  ignoreCase : Bool := false
  multiLine : Bool := false
  dotAll : Bool := false
  unicode : Bool := true
  /-- Blanks and comments in the pattern are skipped. -/
  extended : Bool := false
  crlf : Bool := false

/-- Everything outside the set. -/
def Flags.negate (f : Flags) (s : CodeSet) : CodeSet :=
  if f.unicode then .subtract Text.maxCode Text.allCodes s else .complement 255 s

/-- The set, with its case variants if case is ignored. -/
def Flags.fold (f : Flags) (s : CodeSet) : CodeSet :=
  if f.ignoreCase then (if f.unicode then Text.foldCase s else Text.foldAsciiCase s) else s

/-- A class as a pattern. -/
def Flags.single (f : Flags) (s : CodeSet) : Pattern :=
  if f.unicode then .char s else .byte s

/-- ASCII classes in brackets and colons. -/
def asciiClass : String → Option CodeSet
  | "alnum" => some [⟨48, 57⟩, ⟨65, 90⟩, ⟨97, 122⟩]
  | "alpha" => some [⟨65, 90⟩, ⟨97, 122⟩]
  | "ascii" => some [⟨0, 127⟩]
  | "blank" => some [⟨9, 9⟩, ⟨32, 32⟩]
  | "cntrl" => some [⟨0, 31⟩, ⟨127, 127⟩]
  | "digit" => some [⟨48, 57⟩]
  | "graph" => some [⟨33, 126⟩]
  | "lower" => some [⟨97, 122⟩]
  | "print" => some [⟨32, 126⟩]
  | "punct" => some [⟨33, 47⟩, ⟨58, 64⟩, ⟨91, 96⟩, ⟨123, 126⟩]
  | "space" => some [⟨9, 13⟩, ⟨32, 32⟩]
  | "upper" => some [⟨65, 90⟩]
  | "word" => some [⟨48, 57⟩, ⟨65, 90⟩, ⟨95, 95⟩, ⟨97, 122⟩]
  | "xdigit" => some [⟨48, 57⟩, ⟨65, 70⟩, ⟨97, 102⟩]
  | _ => none

/-- The classes with a letter of their own: digits, blanks and word characters. -/
def letterClass (f : Flags) (c : Char) : CodeSet :=
  match c, f.unicode with
  | 'd', true => Text.decimalDigits
  | 'd', false => [⟨48, 57⟩]
  | 's', true => Text.whiteSpace
  | 's', false => [⟨9, 13⟩, ⟨32, 32⟩]
  | _, true => Text.wordCodes
  | _, false => [⟨48, 57⟩, ⟨65, 90⟩, ⟨95, 95⟩, ⟨97, 122⟩]

/-- A property name for comparison: ASCII only, in lower case, without separators and without a
leading `is`. -/
def normalizeName (cs : List Char) : String :=
  let lower := cs.map Char.toLower
  let (body, cut) := match lower with
    | 'i' :: 's' :: rest => (rest, true)
    | _ => (lower, false)
  let kept := body.filter fun c => c.toNat < 128 && c != ' ' && c != '_' && c != '-'
  if cut && kept = ['c'] then "isc" else String.ofList kept

/-- The characters with a property, a category or a script of that name. -/
def namedClass (cs : List Char) : Option CodeSet :=
  let name := normalizeName cs
  let property := if ["cf", "sc", "lc"].contains name then none else Text.propertyNamed name
  property <|> Text.categoryNamed name <|> Text.scriptNamed name

/-- The characters for which a property has a value. -/
def valuedClass (property value : List Char) : Option CodeSet :=
  let value := normalizeName value
  match normalizeName property with
  | "gc" | "generalcategory" => Text.categoryNamed value
  | "sc" | "script" | "scx" | "scriptextensions" => Text.scriptNamed value
  | _ => none

/-- Splits at the first place where the given characters stand. -/
def splitAt? (mark : List Char) : List Char → Option (List Char × List Char)
  | [] => none
  | c :: rest =>
    if mark.isPrefixOf (c :: rest) then some ([], (c :: rest).drop mark.length)
    else (splitAt? mark rest).map fun (a, b) => (c :: a, b)

/-- What stands between the braces of a property class; the flag says whether it is negated. -/
def propertyClass (cs : List Char) : Option (CodeSet × Bool) :=
  match splitAt? ['!', '='] cs with
  | some (p, v) => (valuedClass p v).map (·, true)
  | none =>
    match splitAt? [':'] cs <|> splitAt? ['='] cs with
    | some (p, v) => (valuedClass p v).map (·, false)
    | none => (namedClass cs).map (·, false)

end DeltaDebug.Regex
