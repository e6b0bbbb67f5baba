import DeltaDebug.Partition
import DeltaDebug.Span
import DeltaDebug.Verdict

/-
  Oracles: what classifies candidates. An oracle may carry a state of its own, so that it can be
  flaky, count its calls, or change the files it works on; `σ` is the type of that state.
-/

namespace DeltaDebug

/-- A failure of the way in which the target is run, as opposed to a verdict. -/
inductive OracleError where
  /-- The program could not be started. -/
  | spawn (program cause : String)
  /-- The program could not be waited for, written to or read from. -/
  | io (context cause : String)
deriving DecidableEq

namespace OracleError

/-- What went wrong underneath. -/
def cause : OracleError → String
  | .spawn _ c => c
  | .io _ c => c

/-- The wording of the failure. -/
def message : OracleError → String
  | .spawn program cause => "cannot launch target `" ++ program ++ "`: " ++ cause
  | .io context cause => context ++ ": " ++ cause

end OracleError

/-- What happens to the target while it runs and is worth a line in the log. -/
inductive TargetEvent where
  /-- The target was stopped at its time limit. -/
  | timedOut (limit : Span)
  /-- The target failed, with an exit code unless a signal ended it. -/
  | failed (code : Option Nat)
  /-- The target failed, but not in the way that is looked for. -/
  | otherFault (code : Option Nat)
deriving DecidableEq

/-- What one call comes to: a verdict, `none` if the call was abandoned, or an error. -/
abbrev Answer := Except OracleError (Option Verdict)

/-- An answer, with what is to be logged about it. -/
structure Reply where
  answer : Answer
  events : List TargetEvent

/-- How many readings of the cancel flag find it clear before one finds it raised; `none` if it
is never raised. -/
abbrev Patience := Option Nat

/-- A classifier of candidates. A call returns the oracle's next state beside its reply. -/
structure Oracle (σ : Type) where
  call : Patience → Candidate → σ → Reply × σ

namespace Oracle

variable {σ : Type}

/-- The oracle that answers by a fixed function of the candidate. -/
def ofFunction (f : Candidate → Answer) : Oracle Unit where
  call patience c _ :=
    match patience with
    | some 0 => (⟨.ok none, []⟩, ())
    | _ => (⟨f c, []⟩, ())

end Oracle

/-- An abandoned call, where a verdict is called for, leaves the candidate unresolved. -/
def Answer.resolved : Answer → Except OracleError Verdict
  | .error e => .error e
  | .ok none => .ok .unresolved
  | .ok (some v) => .ok v

end DeltaDebug
