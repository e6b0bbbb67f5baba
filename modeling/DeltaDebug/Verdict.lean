/-
  What a run of the target says about a candidate.
-/

namespace DeltaDebug

/-- The classification of one candidate. -/
inductive Verdict where
  /-- The failure was reproduced. -/
  | fails
  /-- The target ran to a normal end. -/
  | passes
  /-- The run could not be completed. -/
  | unresolved
deriving DecidableEq

namespace Verdict

/-- The word for a verdict in results and messages. -/
def name : Verdict → String
  | .fails => "fails"
  | .passes => "passes"
  | .unresolved => "unresolved"

/-- The verdict with that name. -/
def ofName? (s : String) : Option Verdict :=
  [Verdict.fails, .passes, .unresolved].find? (·.name = s)

end Verdict

end DeltaDebug
