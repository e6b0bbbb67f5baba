import DeltaDebug.Json.Decode
import DeltaDebug.Result.Basic
import DeltaDebug.Verdict

/-
  Verdicts and results as JSON. A result is written as an object of nine fields in a fixed order.
  It is read from such an object, whatever the order and whatever else it holds, or from the array
  of the nine fields.
-/

namespace DeltaDebug

open Json (DecodeError)

namespace Verdict

def toJson (v : Verdict) : Json := .str v.name

def choose (name : String) : Except DecodeError Verdict :=
  match ofName? name with
  | some v => .ok v
  | none => .error (.variant name [fails.name, passes.name, unresolved.name])

/-- Reads a verdict: its name, or an object with its name as the only key and nothing there. -/
def ofJson : Json → Except DecodeError Verdict
  | .str name => choose name
  | .obj members =>
    match Json.sorted members with
    | [(name, content)] =>
      match choose name, content with
      | .ok v, .null => .ok v
      | .ok _, j => .error (.kind j "unit")
      | .error e, _ => .error e
    | _ => .error (.value (.obj members) "map with a single key")
  | j => .error (.kind j "string or map")

end Verdict

namespace Result

/-- The number fields behind the bytes, in order: name, kind, and the number itself. -/
def counts (r : Result) : List (String × Nat) :=
  [("original_size", r.originalSize),
   ("minimized_size", r.minimizedSize),
   ("invocation_count", r.invocationCount),
   ("unresolved_count", r.unresolvedCount),
   ("complement_reductions", r.complementReductions),
   ("subset_reductions", r.subsetReductions),
   ("granularity_increases", r.granularityIncreases),
   ("cancelled_count", r.cancelledCount)]

/-- The fields of a result, in order. -/
def toMembers (r : Result) : List (String × Json) :=
  ("minimized", .str (Hex.encode r.minimized)) :: r.counts.map fun (name, n) => (name, .ofNat n)

def toJson (r : Result) : Json := .obj r.toMembers

/-- The word for the numbers of a field: sizes and counts have different ones. -/
def kindOf (field : String) : String :=
  if field = "original_size" ∨ field = "minimized_size" then "usize" else "u64"

/-- The names of the fields, in order. -/
def fieldNames : List String :=
  ["minimized", "original_size", "minimized_size", "invocation_count", "unresolved_count",
   "complement_reductions", "subset_reductions", "granularity_increases", "cancelled_count"]

/-- Judges one member of an object; one of another name may be anything. -/
def checkMember (m : String × Json) : Except DecodeError Unit :=
  if m.1 = "minimized" then (Json.decodeBytes m.2).map fun _ => ()
  else if m.1 ∈ fieldNames then (Json.decodeNat (kindOf m.1) m.2).map fun _ => ()
  else .ok ()

/-- Judges the members in their order, up to the first that is wrong. -/
def checkMembers : List (String × Json) → Except DecodeError Unit
  | [] => .ok ()
  | m :: rest =>
    match checkMember m with
    | .ok () => checkMembers rest
    | .error e => .error e

/-- A source of the fields, by position and name. -/
abbrev Source := (index : Nat) → (name : String) → Except DecodeError Json

/-- Reads the nine fields in order. -/
def ofSource (field : Source) : Except DecodeError Result := do
  let number (index : Nat) (name : String) : Except DecodeError Nat := do
    Json.decodeNat (kindOf name) (← field index name)
  return {
    minimized := ← Json.decodeBytes (← field 0 "minimized")
    originalSize := ← number 1 "original_size"
    minimizedSize := ← number 2 "minimized_size"
    invocationCount := ← number 3 "invocation_count"
    unresolvedCount := ← number 4 "unresolved_count"
    complementReductions := ← number 5 "complement_reductions"
    subsetReductions := ← number 6 "subset_reductions"
    granularityIncreases := ← number 7 "granularity_increases"
    cancelledCount := ← number 8 "cancelled_count" }

/-- Reads a result. The members of an object are judged in the order of their keys, and only then
are missing fields reported, in the order of the fields. -/
def ofJson : Json → Except DecodeError Result
  | .obj members => do
    let members := Json.sorted members
    checkMembers members
    ofSource fun _ name =>
      match Json.member? members name with
      | some v => .ok v
      | none => .error (.missingField name)
  | .arr items => do
    let r ← ofSource fun index _ =>
      match items[index]? with
      | some v => .ok v
      | none => .error (.length items.length "struct MinimizationResult with 9 elements")
    if 9 < items.length then .error (.length items.length "fewer elements in array") else .ok r
  | j => .error (.kind j "struct MinimizationResult")

end Result

end DeltaDebug
