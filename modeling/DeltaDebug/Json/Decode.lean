import DeltaDebug.Hex
import DeltaDebug.Json.Printer

/-
  From JSON values to the values they stand for: what can be wrong with a value, and readers for
  numbers and texts.
-/

namespace DeltaDebug.Json

/-- Why a value is not what was expected. -/
inductive DecodeError where
  /-- The value is of another kind. -/
  | kind (found : Json) (expected : String)
  /-- The value is of that kind, but not one of those that are allowed. -/
  | value (found : Json) (expected : String)
  /-- No choice has that name. -/
  | variant (name : String) (choices : List String)
  | missingField (name : String)
  /-- An array has the wrong number of elements. -/
  | length (n : Nat) (expected : String)
  | hex (fault : Hex.Fault)

/-- A value as it is named in messages. -/
def describe : Json → String
  | .null => "null"
  | .bool b => "boolean `" ++ (if b then "true" else "false") ++ "`"
  | .int i => s!"integer `{i}`"
  | .float bits => "floating point `" ++ Decimal.text numberStyle bits ++ "`"
  | .str s => "string " ++ Text.quoted s
  | .arr _ => "sequence"
  | .obj _ => "map"

/-- The wording of a decoding error. -/
def DecodeError.message : DecodeError → String
  | .kind found expected => s!"invalid type: {describe found}, expected {expected}"
  | .value found expected => s!"invalid value: {describe found}, expected {expected}"
  | .variant name choices =>
    "unknown variant `" ++ name ++ "`, expected one of "
      ++ ", ".intercalate (choices.map fun c => "`" ++ c ++ "`")
  | .missingField name => s!"missing field `{name}`"
  | .length n expected => s!"invalid length {n}, expected {expected}"
  | .hex fault => fault.message

/-- A number that is not negative; `expected` names its kind. -/
def decodeNat (expected : String) : Json → Except DecodeError Nat
  | .int i => if 0 ≤ i then .ok i.toNat else .error (.value (.int i) expected)
  | j => .error (.kind j expected)

/-- Bytes, as a text of hexadecimal digits. -/
def decodeBytes : Json → Except DecodeError Candidate
  | .str s =>
    match Hex.decode s with
    | .ok bytes => .ok bytes
    | .error f => .error (.hex f)
  | j => .error (.kind j "a string")

end DeltaDebug.Json
