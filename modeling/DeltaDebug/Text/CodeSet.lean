/-
  Sets of numbers (code points, bytes) written as sorted lists of closed ranges that neither
  touch nor overlap. This is the form in which character properties are tabulated and in which
  character classes are computed with.
-/

namespace DeltaDebug

/-- A closed range of numbers. -/
structure CodeRange where
  lo : Nat
  hi : Nat
deriving DecidableEq, Repr, Inhabited

/-- A union of ranges, sorted and without two that touch. -/
abbrev CodeSet := List CodeRange

namespace CodeSet

/-- Joins ranges that touch or overlap, in a list that is sorted by lower ends. -/
def join : CodeRange → List CodeRange → CodeSet
  | r, [] => [r]
  | r, s :: rest =>
    if s.lo ≤ r.hi + 1 then join ⟨r.lo, max r.hi s.hi⟩ rest
    else r :: join s rest

/-- The set of all numbers that lie in one of the ranges; a range whose ends are reversed is
empty. -/
def ofRanges (rs : List CodeRange) : CodeSet :=
  match (rs.filter fun r => r.lo ≤ r.hi).mergeSort fun a b => a.lo ≤ b.lo with
  | [] => []
  | r :: rest => join r rest

def singleton (n : Nat) : CodeSet := [⟨n, n⟩]

def contains (s : CodeSet) (n : Nat) : Bool :=
  s.any fun r => r.lo ≤ n && n ≤ r.hi

def union (s t : CodeSet) : CodeSet := ofRanges (s ++ t)

/-- The numbers from `lo` on, up to and including `hi`, that no range of `s` holds. -/
def gaps (lo hi : Nat) : CodeSet → CodeSet
  | [] => if lo ≤ hi then [⟨lo, hi⟩] else []
  | r :: rest =>
    (if lo < r.lo then [⟨lo, min hi (r.lo - 1)⟩] else []) ++ gaps (max lo (r.hi + 1)) hi rest

/-- The numbers from 0 to `top` outside `s`. -/
def complement (top : Nat) (s : CodeSet) : CodeSet :=
  ofRanges (gaps 0 top s)

def intersect (s t : CodeSet) : CodeSet :=
  ofRanges <| s.flatMap fun a => t.filterMap fun b =>
    let lo := max a.lo b.lo
    let hi := min a.hi b.hi
    if lo ≤ hi then some ⟨lo, hi⟩ else none

/-- The numbers of `s` outside `t`; `top` bounds both. -/
def subtract (top : Nat) (s t : CodeSet) : CodeSet :=
  intersect s (complement top t)

/-- How many numbers the set holds. -/
def size (s : CodeSet) : Nat :=
  s.foldl (fun n r => n + (r.hi + 1 - r.lo)) 0

def hexValue (c : Char) : Nat :=
  if c.isDigit then c.toNat - 48
  else if 'a' ≤ c ∧ c ≤ 'f' then c.toNat - 87
  else c.toNat - 55

def hexNumber (cs : List Char) : Nat :=
  cs.foldl (fun n c => 16 * n + hexValue c) 0

/-- One entry of a table: `41` or `41-5a`, in hexadecimal. -/
def entry (cs : List Char) : CodeRange :=
  match cs.span (· ≠ '-') with
  | (lo, _ :: hi) => ⟨hexNumber lo, hexNumber hi⟩
  | (lo, []) => ⟨hexNumber lo, hexNumber lo⟩

/-- Splits a text at blanks and line ends. -/
def words : List Char → List (List Char)
  | [] => [[]]
  | c :: rest =>
    if c = ' ' ∨ c = '\n' then [] :: words rest
    else match words rest with
      | [] => [[c]]
      | w :: ws => (c :: w) :: ws

/-- Reads a table: ranges in hexadecimal, in ascending order, with blanks between them. -/
def ofTable (text : String) : CodeSet :=
  ((words text.toList).filter (· ≠ [])).map entry

end CodeSet

/-- A set in the form in which a look-up takes a logarithm of its ranges. -/
structure CodeIndex where
  ranges : Array CodeRange
deriving Repr

namespace CodeIndex

def ofSet (s : CodeSet) : CodeIndex := ⟨s.toArray⟩

/-- Looks for `n` in the ranges from `lo` up to, not including, `hi`; each step halves their
number, so `steps` need not exceed its logarithm. -/
def search (t : CodeIndex) (n : Nat) : (steps lo hi : Nat) → Bool
  | 0, _, _ => false
  | steps + 1, lo, hi =>
    if lo < hi then
      let mid := (lo + hi) / 2
      match t.ranges[mid]? with
      | none => false
      | some r =>
        if n < r.lo then search t n steps lo mid
        else if r.hi < n then search t n steps (mid + 1) hi
        else true
    else false

def contains (t : CodeIndex) (n : Nat) : Bool :=
  t.search n (t.ranges.size.log2 + 2) 0 t.ranges.size

end CodeIndex

end DeltaDebug
