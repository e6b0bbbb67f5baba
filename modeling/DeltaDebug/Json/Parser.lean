import DeltaDebug.Json.Number

/-
  JSON texts to values. The grammar is the strict one: no comments, no trailing commas, no
  unescaped control characters, no half surrogate pairs. Arrays and objects nest at most 127 deep.
-/

namespace DeltaDebug.Json

def isBlank (c : Char) : Bool := c == ' ' || c == '\t' || c == '\n' || c == '\r'

def skipBlanks (cs : List Char) : List Char := cs.dropWhile isBlank

def hexDigit? (c : Char) : Option Nat :=
  if c.isDigit then some (c.toNat - 48)
  else if 'a' ≤ c ∧ c ≤ 'f' then some (c.toNat - 87)
  else if 'A' ≤ c ∧ c ≤ 'F' then some (c.toNat - 55)
  else none

/-- Four hexadecimal digits. -/
def unit : List Char → Option (Nat × List Char)
  | a :: b :: c :: d :: rest => do
    return (((← hexDigit? a) * 16 + (← hexDigit? b)) * 256 + ((← hexDigit? c) * 16 + (← hexDigit? d)),
      rest)
  | _ => none

/-- The character of a `\u` escape; a pair of surrogates is one character. -/
def unicodeEscape (cs : List Char) : Option (Char × List Char) := do
  let (u, rest) ← unit cs
  if 0xD800 ≤ u ∧ u < 0xDC00 then
    match rest with
    | '\\' :: 'u' :: rest =>
      let (v, rest) ← unit rest
      if 0xDC00 ≤ v ∧ v < 0xE000 then
        return (Char.ofNat (0x10000 + (u - 0xD800) * 0x400 + (v - 0xDC00)), rest)
      else none
    | _ => none
  else if 0xDC00 ≤ u ∧ u < 0xE000 then none
  else return (Char.ofNat u, rest)

def simpleEscape : Char → Option Char
  | '"' => some '"'
  | '\\' => some '\\'
  | '/' => some '/'
  | 'b' => some '\x08'
  | 'f' => some '\x0c'
  | 'n' => some '\n'
  | 'r' => some '\r'
  | 't' => some '\t'
  | _ => none

/-- The rest of a string behind its opening quote; `acc` holds what was read, last first. -/
def stringBody : (fuel : Nat) → (acc : List Char) → List Char → Option (String × List Char)
  | 0, _, _ => none
  | _, _, [] => none
  | fuel + 1, acc, c :: rest =>
    if c = '"' then some (String.ofList acc.reverse, rest)
    else if c = '\\' then
      match rest with
      | 'u' :: rest => do
        let (c, rest) ← unicodeEscape rest
        stringBody fuel (c :: acc) rest
      | e :: rest => do stringBody fuel ((← simpleEscape e) :: acc) rest
      | [] => none
    else if c.toNat < 32 then none
    else stringBody fuel (c :: acc) rest

def string (cs : List Char) : Option (String × List Char) :=
  match cs with
  | '"' :: rest => stringBody (rest.length + 1) [] rest
  | _ => none

mutual

/-- A value at the front of the text. `fuel` bounds the number of steps, `depth` is how many more
brackets may be opened. -/
def value : (fuel depth : Nat) → List Char → Option (Json × List Char)
  | 0, _, _ => none
  | fuel + 1, depth, cs =>
    match skipBlanks cs with
    | 'n' :: 'u' :: 'l' :: 'l' :: rest => some (.null, rest)
    | 't' :: 'r' :: 'u' :: 'e' :: rest => some (.bool true, rest)
    | 'f' :: 'a' :: 'l' :: 's' :: 'e' :: rest => some (.bool false, rest)
    | '"' :: rest => (stringBody (rest.length + 1) [] rest).map fun (s, rest) => (.str s, rest)
    | '[' :: rest =>
      if depth = 0 then none
      else match skipBlanks rest with
        | ']' :: rest => some (.arr [], rest)
        | rest => elements fuel (depth - 1) [] rest
    | '\x7b' :: rest =>
      if depth = 0 then none
      else match skipBlanks rest with
        | '\x7d' :: rest => some (.obj [], rest)
        | rest => members fuel (depth - 1) [] rest
    | cs => number cs

/-- The elements of an array behind its opening bracket; `acc` holds them last first. -/
def elements : (fuel depth : Nat) → (acc : List Json) → List Char → Option (Json × List Char)
  | 0, _, _, _ => none
  | fuel + 1, depth, acc, cs =>
    match value fuel depth cs with
    | none => none
    | some (v, rest) =>
      match skipBlanks rest with
      | ',' :: rest => elements fuel depth (v :: acc) rest
      | ']' :: rest => some (.arr (v :: acc).reverse, rest)
      | _ => none

/-- The members of an object behind its opening brace. -/
def members : (fuel depth : Nat) → (acc : List (String × Json)) → List Char →
    Option (Json × List Char)
  | 0, _, _, _ => none
  | fuel + 1, depth, acc, cs =>
    match string (skipBlanks cs) with
    | none => none
    | some (key, rest) =>
      match skipBlanks rest with
      | ':' :: rest =>
        match value fuel depth rest with
        | none => none
        | some (v, rest) =>
          match skipBlanks rest with
          | ',' :: rest => members fuel depth ((key, v) :: acc) rest
          | '\x7d' :: rest => some (.obj ((key, v) :: acc).reverse, rest)
          | _ => none
      | _ => none

end

/-- How deep arrays and objects may nest. -/
def maxDepth : Nat := 127

/-- The value of a whole text. -/
def parse (text : String) : Option Json :=
  let cs := text.toList
  match value (2 * cs.length + 2) maxDepth cs with
  | some (v, rest) => if skipBlanks rest = [] then some v else none
  | none => none

end DeltaDebug.Json
