import DeltaDebug.Search.Probe

/-
  Scans by a pool of workers. All candidates of a scan are started; once index `k` fails, indices
  above it are skipped or cancelled, while those below still run to their end, so that the lowest
  failing index wins. Here the workers take their turns in index order, each to its end.
-/

namespace DeltaDebug.Pool

variable {σ : Type} {count : Nat}

/-- What became of one index. -/
abbrev Finding (count : Nat) := Fin count × Except OracleError Probe

/-- The lowest failing index, once index `i` has come to `r`. -/
def lower (lowest : Option (Fin count)) (i : Fin count) : Except OracleError Probe →
    Option (Fin count)
  | .ok p =>
    if p.fails then
      match lowest with
      | none => some i
      | some k => some (if i < k then i else k)
    else lowest
  | .error _ => lowest

/-- Whether an index need not be probed, as one below it is known to fail. -/
def superseded (lowest : Option (Fin count)) (i : Fin count) : Bool :=
  lowest.any (· < i)

/-- Runs the indices in the order of the list, each to its end. -/
def findings (o : Oracle σ) (confirm : Bool) (build : Fin count → Candidate) :
    Option (Fin count) → List (Fin count) → Session σ → List (Finding count) × Session σ
  | _, [], s => ([], s)
  | lowest, i :: rest, s =>
    if superseded lowest i then
      let (found, s) := findings o confirm build lowest rest s
      ((i, .ok (.abandoned 0)) :: found, s)
    else
      let (r, s) := probe o confirm (build i) s
      let (found, s) := findings o confirm build (lower lowest i r) rest s
      ((i, r) :: found, s)

/-- Counts the findings in index order and picks the first failure. An error counts only if no
lower index failed: without a pool its index would not have been reached. -/
def collect (found : Option (Fin count)) : List (Finding count) → Session σ →
    Except OracleError (Option (Fin count)) × Session σ
  | [], s => (.ok found, s)
  | (i, .ok p) :: rest, s =>
    collect (if found.isNone && p.fails then some i else found) rest (s.record p)
  | (i, .error e) :: rest, s =>
    if found.isSome then
      let s := s.note (.errorIgnored i e)
      collect found rest { s with tally := s.tally.cancel }
    else (.error e, s)

/-- The scan by a pool. A single candidate is probed without it. -/
def scan (o : Oracle σ) (confirm : Bool) : Scan σ :=
  fun count build s =>
    if count ≤ 1 then scanInOrder o confirm count build s
    else
      let (found, s) := findings o confirm build none (List.finRange count) s
      collect none found s

end DeltaDebug.Pool
