import DeltaDebug.Text.Printable

/-
  Texts and characters as they are shown in messages: between quotes, with everything that has no
  visible form written as an escape.
-/

namespace DeltaDebug.Text

def lowerHexDigit (n : Nat) : Char :=
  if n < 10 then Char.ofNat (48 + n) else Char.ofNat (87 + n)

/-- A number in lower-case hexadecimal, without leading zeros. -/
def lowerHex (n : Nat) : String :=
  String.ofList ((Nat.toDigits 16 n))

/-- A code point as `\u` and its number in braces. -/
def codeEscape (c : Char) : String :=
  "\\u\x7b" ++ lowerHex c.toNat ++ "\x7d"

/-- One character between quotes of the kind `quote`. A mark that attaches to the character before
it is an escape if `leading`, where there is none. -/
def escapeChar (quote : Char) (leading : Bool) (c : Char) : String :=
  if c = '\x00' then "\\0"
  else if c = '\t' then "\\t"
  else if c = '\r' then "\\r"
  else if c = '\n' then "\\n"
  else if c = '\\' then "\\\\"
  else if c = quote then String.ofList ['\\', c]
  else if leading && isGraphemeExtend c then codeEscape c
  else if isPrintable c then String.singleton c
  else codeEscape c

/-- A character in single quotes. -/
def quotedChar (c : Char) : String :=
  "'" ++ escapeChar '\'' true c ++ "'"

/-- A text in double quotes. -/
def quoted (s : String) : String :=
  match s.toList with
  | [] => "\"\""
  | c :: rest =>
    "\"" ++ escapeChar '"' true c ++ String.join (rest.map (escapeChar '"' false)) ++ "\""

end DeltaDebug.Text
