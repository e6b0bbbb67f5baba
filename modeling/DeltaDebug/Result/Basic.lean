import DeltaDebug.Partition

/-
  The result of a minimization.
-/

namespace DeltaDebug

/-- The minimized input, its size before and after, and what the search took. -/
structure Result where
  minimized : Candidate
  originalSize : Nat
  minimizedSize : Nat
  invocationCount : Nat
  unresolvedCount : Nat
  complementReductions : Nat
  subsetReductions : Nat
  granularityIncreases : Nat
  cancelledCount : Nat
deriving DecidableEq

namespace Result

/-- The part of the input that was removed, from 0 to 1. -/
def reductionRatio (r : Result) : Float :=
  if r.originalSize = 0 then 0.0
  else 1.0 - r.minimizedSize.toUInt64.toFloat / r.originalSize.toUInt64.toFloat

end Result

end DeltaDebug
