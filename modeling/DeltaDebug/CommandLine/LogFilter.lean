import DeltaDebug.Event

/-
  Which log lines are written. A filter is a list of directives, each a level for the lines whose
  origin starts with some text, or for all of them. The longest such text decides; of two equal
  ones the later.
-/

namespace DeltaDebug.CommandLine

/-- One rule of a filter: lines of at least this rank pass; `none` lets nothing pass. -/
structure Directive where
  origin : Option String
  least : Option Level
deriving DecidableEq

/-- The levels that pass, from the rules that apply. -/
structure LogFilter where
  directives : List Directive

/-- Why a directive cannot be read. -/
inductive DirectiveFault where
  | form
  | level

/-- The wording of the fault. -/
def DirectiveFault.message : DirectiveFault → String
  | .form => "invalid filter directive"
  | .level => "error parsing level filter: expected one of \"off\", \"error\", \"warn\", " ++
      "\"info\", \"debug\", \"trace\", or a number 0-5"

namespace LogFilter

/-- A level by its name or number; `some none` lets nothing pass. -/
def level? (s : String) : Option (Option Level) :=
  let digits := match s.toList with
    | '+' :: rest => rest
    | cs => cs
  if digits ≠ [] ∧ digits.all Char.isDigit then
    match digits.foldl (fun n c => n * 10 + (c.toNat - 48)) 0 with
    | 0 => some none
    | 1 => some (some .error)
    | 2 => some (some .warn)
    | 3 => some (some .info)
    | 4 => some (some .debug)
    | 5 => some (some .trace)
    | _ => none
  else match s.map Char.toLower with
    | "error" | "" => some (some .error)
    | "warn" => some (some .warn)
    | "info" => some (some .info)
    | "debug" => some (some .debug)
    | "trace" => some (some .trace)
    | "off" => some none
    | _ => none

def isWordChar (c : Char) : Bool := c.isAlphanum || c.toNat ≥ 128

/-- Reads a directive: a level, an origin with all its levels, or an origin and a level. A
directive about spans applies to no line; it is kept as `none`. Blanks around it do not count when
its form is looked at, but its parts are cut from the whole text. -/
def directive (s : String) : Except DirectiveFault (Option Directive) :=
  let body := s.trimAscii.toString.toList
  let whole := s.toList
  match body with
  | [] => .error .form
  | c :: _ =>
    if c = '[' then (if body.contains ']' then .ok none else .error .form)
    else if !(c = '-' || c = ':' || c = '_' || isWordChar c) then .error .form
    else match body.findIdx? fun c => c = '=' || c = '[' with
      | none =>
        match level? s with
        | some l => .ok (some ⟨none, l⟩)
        | none => .ok (some ⟨some s, some .trace⟩)
      | some i =>
        if body[i]? = some '[' then (if body.contains ']' then .ok none else .error .form)
        else
          let origin := String.ofList (whole.take i)
          let text := String.ofList (whole.drop (i + 1))
          if text = "" then .ok (some ⟨some origin, some .trace⟩)
          else match level? text with
            | some l => .ok (some ⟨some origin, l⟩)
            | none => .error .level

/-- The filter for a verbosity alone. -/
def ofVerbosity (n : Nat) : LogFilter :=
  ⟨[⟨none, some (if n = 0 then .warn else if n = 1 then .info else .debug)⟩]⟩

/-- The filter that a text asks for, and what is said about the parts that cannot be read. Without
any directive the verbosity decides. -/
def ofText (text : String) (verbosity : Nat) : LogFilter × List String :=
  let parts := (text.splitOn ",").filter (· ≠ "")
  let read := parts.map fun p => (p, directive p)
  let good := read.filterMap fun (_, d) => d.toOption
  let complaints := read.filterMap fun (p, d) =>
    match d with
    | .error e => some ("ignoring " ++ "\x60" ++ p ++ "\x60" ++ ": " ++ e.message)
    | .ok _ => none
  if good = [] then (ofVerbosity verbosity, complaints)
  else (⟨good.filterMap id⟩, complaints)

/-- How specific a directive is. -/
def weight (d : Directive) : Nat :=
  match d.origin with
  | none => 0
  | some o => o.length + 1

/-- The directive that decides about an origin. -/
def deciding (f : LogFilter) (origin : String) : Option Directive :=
  f.directives.foldl (fun best d =>
    if (d.origin.getD "").toList.isPrefixOf origin.toList then
      match best with
      | none => some d
      | some b => if weight b ≤ weight d then some d else best
    else best) none

/-- Whether a line is written. -/
def passes (f : LogFilter) (e : Event) : Bool :=
  match (f.deciding e.origin).bind (·.least) with
  | none => false
  | some least => decide (least.rank ≤ e.level.rank)

end LogFilter

end DeltaDebug.CommandLine
