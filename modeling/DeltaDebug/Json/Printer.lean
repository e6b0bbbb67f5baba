import DeltaDebug.Json.Basic
import DeltaDebug.Decimal.Shortest
import DeltaDebug.Text.Quoted

/-
  JSON values to texts: on one line without blanks, or over several lines with an indent of two.
-/

namespace DeltaDebug.Json

/-- One character of a string. Only quotes, backslashes and controls are escaped. -/
def escape (c : Char) : List Char :=
  if c = '"' then ['\\', '"']
  else if c = '\\' then ['\\', '\\']
  else if c = '\x08' then ['\\', 'b']
  else if c = '\t' then ['\\', 't']
  else if c = '\n' then ['\\', 'n']
  else if c = '\x0c' then ['\\', 'f']
  else if c = '\r' then ['\\', 'r']
  else if c.toNat < 32 then
    ['\\', 'u', '0', '0', Text.lowerHexDigit (c.toNat / 16), Text.lowerHexDigit (c.toNat % 16)]
  else [c]

/-- Numbers are positional from a hundred-thousandth on. -/
def numberStyle : Decimal.Style := ⟨-4, 16⟩

def stringText (s : String) : String :=
  String.ofList ('"' :: s.toList.flatMap escape ++ ['"'])

/-- Numbers and the other values without parts. -/
def scalarText : Json → String
  | .null => "null"
  | .bool b => if b then "true" else "false"
  | .int i => toString i
  | .float bits => Decimal.text numberStyle bits
  | .str s => stringText s
  | .arr _ => "[]"
  | .obj _ => "\x7b\x7d"

mutual

/-- The value on one line. -/
def compact : Json → String
  | .arr items => "[" ++ compactItems items ++ "]"
  | .obj members => "\x7b" ++ compactMembers members ++ "\x7d"
  | v => scalarText v

def compactItems : List Json → String
  | [] => ""
  | [v] => compact v
  | v :: w :: rest => compact v ++ "," ++ compactItems (w :: rest)

def compactMembers : List (String × Json) → String
  | [] => ""
  | [(k, v)] => stringText k ++ ":" ++ compact v
  | (k, v) :: m :: rest => stringText k ++ ":" ++ compact v ++ "," ++ compactMembers (m :: rest)

end

/-- A new line at depth `depth`. -/
def newline (depth : Nat) : String :=
  "\n" ++ String.ofList (List.replicate (2 * depth) ' ')

mutual

/-- The value over several lines, each part on a line of its own; an empty array or object stays
on one. -/
def pretty (depth : Nat) : Json → String
  | .arr [] => "[]"
  | .arr (v :: rest) =>
    "[" ++ newline (depth + 1) ++ pretty (depth + 1) v ++ prettyItems (depth + 1) rest
      ++ newline depth ++ "]"
  | .obj [] => "\x7b\x7d"
  | .obj ((k, v) :: rest) =>
    "\x7b" ++ newline (depth + 1) ++ stringText k ++ ": " ++ pretty (depth + 1) v
      ++ prettyMembers (depth + 1) rest ++ newline depth ++ "\x7d"
  | v => scalarText v

/-- The items behind the first one. -/
def prettyItems (depth : Nat) : List Json → String
  | [] => ""
  | v :: rest => "," ++ newline depth ++ pretty depth v ++ prettyItems depth rest

/-- The members behind the first one. -/
def prettyMembers (depth : Nat) : List (String × Json) → String
  | [] => ""
  | (k, v) :: rest =>
    "," ++ newline depth ++ stringText k ++ ": " ++ pretty depth v ++ prettyMembers depth rest

end

end DeltaDebug.Json
