import DeltaDebug.Oracle.Basic
import DeltaDebug.Regex.Match

/-
  A target: the program under test, how it is started, how long it may run, and which of its
  failures count.
-/

namespace DeltaDebug

/-- The program under test. Each candidate is written to its input. -/
structure Target where
  program : String
  args : List String := []
  cwd : Option String := none
  /-- Variables that are added to the environment, the later ones over the earlier ones. -/
  env : List (String × String) := []
  /-- How long it may run. -/
  timeout : Option Span := none
  /-- What its error output has to match for a failure to count. -/
  crashPattern : Option Regex := none
  /-- How long one look at the running program lasts at most; never less than a millisecond. -/
  pollInterval : Span := .ofMillis 10
  le_pollInterval : Span.ofMillis 1 ≤ pollInterval := by decide

namespace Target

/-- Sets how often the running program is looked at; never more than once in a millisecond. -/
def pollEvery (t : Target) (interval : Span) : Target :=
  { t with
    pollInterval := max interval (Span.ofMillis 1)
    le_pollInterval := Nat.le_max_right interval (Span.ofMillis 1) }

/-- One setting of a target. -/
inductive Adjustment where
  | arg (a : String)
  | args (more : List String)
  | cwd (dir : String)
  | env (key value : String)
  | timeout (limit : Option Span)
  | crashPattern (pattern : Option Regex)
  | pollEvery (interval : Span)

def adjust (t : Target) : Adjustment → Target
  | .arg a => { t with args := t.args ++ [a] }
  | .args more => { t with args := t.args ++ more }
  | .cwd dir => { t with cwd := some dir }
  | .env key value => { t with env := t.env ++ [(key, value)] }
  | .timeout limit => { t with timeout := limit }
  | .crashPattern pattern => { t with crashPattern := pattern }
  | .pollEvery interval => t.pollEvery interval

theorem le_defaultInterval : Span.ofMillis 1 ≤ Span.ofMillis 10 := by
  decide

/-- The target of a program after these settings, one after the other. -/
def configure (program : String) (adjustments : List Adjustment) : Target :=
  adjustments.foldl adjust { program := program, le_pollInterval := le_defaultInterval }

end Target

/-- How a program ended. -/
inductive ExitStatus where
  | code (n : Nat)
  | signal (n : Nat)
deriving DecidableEq

namespace ExitStatus

/-- Whether the program says that all went well. -/
def success (s : ExitStatus) : Bool := s = .code 0

/-- The exit code, unless a signal ended the program. -/
def code? : ExitStatus → Option Nat
  | .code n => some n
  | .signal _ => none

end ExitStatus

/-- The verdict on a program that ended: a failure counts if there is no pattern, or if the error
output matches it. -/
def Target.classify (t : Target) (status : ExitStatus) (stderr : Candidate) :
    Verdict × List TargetEvent :=
  if status.success then (.passes, [])
  else match t.crashPattern with
    | some r =>
      if r.matchesBytes stderr then (.fails, [.failed status.code?])
      else (.passes, [.otherFault status.code?])
    | none => (.fails, [.failed status.code?])

end DeltaDebug
