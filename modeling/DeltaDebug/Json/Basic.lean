/-
  JSON values, with whole and floating numbers kept apart.
-/

namespace DeltaDebug

/-- A JSON value. An object keeps its members as written; a reader that looks for a key takes the
last member of that name. -/
inductive Json where
  | null
  | bool (b : Bool)
  /-- A whole number from `-2^63` to `2^64 - 1`. -/
  | int (i : Int)
  /-- Any other number, by the bits of its binary form. -/
  | float (bits : UInt64)
  | str (s : String)
  | arr (items : List Json)
  | obj (members : List (String × Json))
deriving Inhabited

namespace Json

/-- The last member of that name. -/
def member? (members : List (String × Json)) (key : String) : Option Json :=
  members.foldl (fun found m => if m.1 = key then some m.2 else found) none

/-- A field of an object; one that is `null` counts as missing. -/
def get? (j : Json) (key : String) : Option Json :=
  match j with
  | .obj members =>
    match member? members key with
    | some .null => none
    | found => found
  | _ => none

/-- Puts a member at its place in a list sorted by key, over an older one of the same name. -/
def insert (key : String) (value : Json) : List (String × Json) → List (String × Json)
  | [] => [(key, value)]
  | (k, v) :: rest =>
    if key = k then (key, value) :: rest
    else if key < k then (key, value) :: (k, v) :: rest
    else (k, v) :: insert key value rest

/-- The members of an object in the order of their keys, each key once. -/
def sorted (members : List (String × Json)) : List (String × Json) :=
  members.foldl (fun acc m => insert m.1 m.2 acc) []

def ofNat (n : Nat) : Json := .int n

end Json

end DeltaDebug
