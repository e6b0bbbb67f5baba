import DeltaDebug.Yaml.Lexer
import DeltaDebug.Yaml.Node

/-
  The session file: a YAML mapping of a few optional settings. Everything in it has to be known
  and well-typed; a text that is not is refused as a whole.
-/

namespace DeltaDebug

/-- What a session file sets. -/
structure FileSettings where
  timeoutMs : Option Nat := none
  jobs : Option Nat := none
  doubleCheck : Option Bool := none
  crashPattern : Option String := none
  cwd : Option String := none
  /-- Variables for the target, sorted by name. -/
  env : List (String × String) := []
  args : List String := []

namespace FileSettings

open Yaml (Node Style)

/-- The tags of the scalars that have a type. -/
def coreTag (name : String) : String := "tag:yaml.org,2002:" ++ name

def isNullWord (s : String) : Bool := ["null", "Null", "NULL", "~"].contains s

/-- Whether a scalar is taken for a number or a truth value: a plain one is, and a literal block
if its tag says so. -/
def isTyped (style : Style) (tag : Option String) (expected : String) : Bool :=
  style = .plain || (style = .literal && tag = some (coreTag expected))

def digitOf (base : Nat) (c : Char) : Option Nat :=
  let d := if c.isDigit then c.toNat - 48
    else if 'a' ≤ c ∧ c ≤ 'z' then c.toNat - 87
    else if 'A' ≤ c ∧ c ≤ 'Z' then c.toNat - 55
    else base
  if d < base then some d else none

/-- A number in some base, below `2 ^ 64`. -/
def digits (base : Nat) (cs : List Char) : Option Nat := do
  if cs = [] then none
  else
    let n ← cs.foldlM (fun n c => (digitOf base c).map fun d => base * n + d) 0
    if n < 18446744073709551616 then some n else none

/-- A whole number: decimal without leading zeros, or with the mark of another base. -/
def wholeNumber (s : String) : Option Nat :=
  let cs := match s.toList with
    | '+' :: rest => rest
    | cs => cs
  match cs with
  | '0' :: 'x' :: rest => digits 16 rest
  | '0' :: 'o' :: rest => digits 8 rest
  | '0' :: 'b' :: rest => digits 2 rest
  | '0' :: d :: rest => if (d :: rest).all Char.isDigit then none else digits 10 cs
  | cs => digits 10 cs

def natValue : Node → Option Nat
  | .scalar text style tag => if isTyped style tag "int" then wholeNumber text else none
  | _ => none

def boolValue : Node → Option Bool
  | .scalar text style tag =>
    if isTyped style tag "bool" then
      if ["true", "True", "TRUE"].contains text then some true
      else if ["false", "False", "FALSE"].contains text then some false
      else none
    else none
  | _ => none

/-- A text: any scalar, as it is written. -/
def textValue : Node → Option String
  | .scalar text _ _ => some text
  | _ => none

/-- A value that may be missing: nothing, or a word for nothing, is none. -/
def optional {α : Type} (read : Node → Option α) (n : Node) : Option (Option α) :=
  match n with
  | .scalar text .plain none =>
    if text = "" || isNullWord text then some none else (read n).map some
  | .scalar text .plain (some tag) =>
    if tag = coreTag "null" then (if isNullWord text then some none else none)
    else (read n).map some
  | n => (read n).map some

/-- Whether nothing at all is written there. -/
def isNothing : Node → Bool
  | .scalar "" .plain _ => true
  | _ => false

/-- Sets a variable in a list sorted by name, over an older value. -/
def setVariable (name value : String) : List (String × String) → List (String × String)
  | [] => [(name, value)]
  | (n, v) :: rest =>
    if name = n then (name, value) :: rest
    else if name < n then (name, value) :: (n, v) :: rest
    else (n, v) :: setVariable name value rest

def envValue (n : Node) : Option (List (String × String)) :=
  match n with
  | .mapping entries =>
    entries.foldlM (fun env (k, v) => do return setVariable (← textValue k) (← textValue v) env) []
  | n => if isNothing n then some [] else none

def argsValue (n : Node) : Option (List String) :=
  match n with
  | .sequence items => items.mapM textValue
  | n => if isNothing n then some [] else none

/-- Takes over one entry. -/
def set (f : FileSettings) (name : String) (n : Node) : Option FileSettings :=
  match name with
  | "timeout_ms" => (optional natValue n).map fun v => { f with timeoutMs := v }
  | "jobs" => (optional natValue n).map fun v => { f with jobs := v }
  | "double_check" => (optional boolValue n).map fun v => { f with doubleCheck := v }
  | "crash_pattern" => (optional textValue n).map fun v => { f with crashPattern := v }
  | "cwd" => (optional textValue n).map fun v => { f with cwd := v }
  | "env" => (envValue n).map fun v => { f with env := v }
  | "args" => (argsValue n).map fun v => { f with args := v }
  | _ => none

/-- Takes over the entries in order, each name at most once. -/
def setAll (f : FileSettings) (seen : List String) : List (Node × Node) → Option FileSettings
  | [] => some f
  | (k, v) :: rest => do
    let name ← textValue k
    if seen.contains name then none else setAll (← f.set name v) (name :: seen) rest

/-- Reads a session file. A text without a document, or with an empty one, sets nothing. -/
def ofText? (text : String) : Option FileSettings := do
  match ← Yaml.stream (← Yaml.tokens text) with
  | .empty => some {}
  | .document (.mapping entries) => setAll {} [] entries
  | .document n => if isNothing n then some {} else none

end FileSettings

end DeltaDebug
