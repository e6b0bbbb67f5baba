import DeltaDebug.Search.Minimize

/-
  Minimization of an input that has to reproduce the failure first.
-/

namespace DeltaDebug

variable {σ : Type}

/-- Why a checked minimization has no result. -/
inductive DriveError where
  /-- The first call failed. -/
  | oracle (e : OracleError)
  /-- The input does not reproduce the failure. -/
  | notFailing (v : Verdict)
  /-- The search failed. -/
  | search (e : SearchError)
deriving DecidableEq

namespace DriveError

/-- The wording of the failure. -/
def message : DriveError → String
  | .oracle e => e.message
  | .notFailing v => s!"program does not crash with initial input (verdict: {v.name})"
  | .search e => e.message

/-- What went wrong underneath, if the oracle failed. -/
def cause? : DriveError → Option String
  | .oracle e => some e.cause
  | .search (.oracle e) => some e.cause
  | _ => none

/-- Whether the fault is in how the program was called, rather than in the run. -/
def isUsage : DriveError → Bool
  | .notFailing _ => true
  | .oracle (.spawn ..) => true
  | _ => false

end DriveError

namespace PoolOr

/-- The wording of the failure. -/
def message : PoolOr DriveError → String
  | .pool cause => s!"build worker pool: {cause}"
  | .other e => e.message

/-- What went wrong underneath. -/
def cause? : PoolOr DriveError → Option String
  | .pool cause => some cause
  | .other e => e.cause?

/-- Whether the fault is in how the program was called; that there is no pool is not. -/
def isUsage : PoolOr DriveError → Bool
  | .pool _ => false
  | .other e => e.isUsage

end PoolOr

/-- Checks that the input fails. -/
def checkPrecondition (o : Oracle σ) (input : Candidate) (s : Session σ) :
    Except DriveError Unit × Session σ :=
  match s.ask o input with
  | (answer, s) =>
    match answer.resolved with
    | .error e => (.error (.oracle e), s)
    | .ok .fails => (.ok (), s)
    | .ok v => (.error (.notFailing v), s)

/-- Checks that the input fails, then has it minimized. `unmet` and `failed` say how it is reported
that the check or the minimizer fails. -/
def driveBy {ε δ : Type}
    (minimizer : Oracle σ → Candidate → Session σ → Except ε Result × Session σ)
    (unmet : DriveError → δ) (failed : ε → δ) (o : Oracle σ) (input : Candidate) (s : Session σ) :
    Except δ Result × Session σ :=
  match checkPrecondition o input s with
  | (.error e, s) => (.error (unmet e), s)
  | (.ok (), s) =>
    match minimizer o input s with
    | (.error e, s) => (.error (failed e), s)
    | (.ok r, s) =>
      (.ok r, s.note (.inputMinimized r.originalSize r.minimizedSize r.reductionRatio.toBits))

/-- Checks that the input fails, then minimizes it as the options say. -/
def drive (opts : Options) (o : Oracle σ) (input : Candidate) (s : Session σ) :
    Except DriveError Result × Session σ :=
  driveBy (minimize opts) id .search o input s

end DeltaDebug
