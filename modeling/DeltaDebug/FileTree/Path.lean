import DeltaDebug.Text.Utf8

/-
  Paths: texts with slashes, as users write them, and the lists of names they stand for.
-/

namespace DeltaDebug

/-- The name of a file in its directory. -/
abbrev Name := List UInt8

/-- The names on the way from the root to a file. -/
abbrev Path := List Name

namespace Path

def slash : UInt8 := 47

def dot : Name := [46]

def dotDot : Name := [46, 46]

/-- Splits at every slash; there is one more part than there are slashes. -/
def splitSlashes : List UInt8 → List Name
  | [] => [[]]
  | b :: rest =>
    if b = slash then [] :: splitSlashes rest
    else match splitSlashes rest with
      | [] => [[b]]
      | w :: ws => (b :: w) :: ws

def isAbsolute (text : List UInt8) : Bool := text.head? = some slash

/-- The names in a written path; a single dot only counts at its start. -/
def components (text : List UInt8) : List Name :=
  match splitSlashes text with
  | first :: rest =>
    (if first = [] then [] else [first]) ++ rest.filter fun n => n ≠ [] ∧ n ≠ dot
  | [] => []

/-- How many components a written path has, the root among them. -/
def componentCount (text : List UInt8) : Nat :=
  (components text).length + if isAbsolute text then 1 else 0

/-- Whether the last part of a written path is empty, a dot or two dots, so that it cannot name a
file. -/
def endsInDirectory (text : List UInt8) : Bool :=
  match (splitSlashes text).getLast? with
  | some n => n = [] || n = dot || n = dotDot
  | none => true

/-- The part of a written path that names the directory of its last component, as it is written;
nothing for a bare name and for the root. -/
def parent (text : List UInt8) : List UInt8 :=
  let blank (n : Name) : Bool := n = [] || n = dot
  match splitSlashes text with
  | [] => []
  | first :: rest =>
    match rest.reverse.dropWhile blank with
    | [] => []
    | _ :: above =>
      match (above.dropWhile blank).reverse with
      | [] => if first = [] then [slash] else first
      | kept => (List.intersperse [slash] (first :: kept)).flatten

end Path

end DeltaDebug
