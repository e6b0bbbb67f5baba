import DeltaDebug.Result.Basic
import DeltaDebug.Search.Pool
import DeltaDebug.Search.Round

/-
  The whole search: rounds until nothing smaller fails. The length of the candidate, and at equal
  length what is left to refine, go down with every round, whatever the oracle answers.
-/

namespace DeltaDebug

variable {σ : Type}

/-- How to search. -/
structure Options where
  /-- How many candidates are probed at a time; 1 means one after the other, every other number
  a pool. -/
  jobs : Nat := 1
  /-- Whether every failure is confirmed by a second call. -/
  doubleCheck : Bool := false
  /-- Whether the input itself is probed first. -/
  verifyInput : Bool := false

/-- The scan that the options ask for. -/
def Options.scan (opts : Options) (o : Oracle σ) : Scan σ :=
  if opts.jobs = 1 then scanInOrder o opts.doubleCheck else Pool.scan o opts.doubleCheck

/-- Why a search has no result. -/
inductive SearchError where
  | oracle (e : OracleError)
  /-- The input was probed, and does not fail. -/
  | inputDoesNotFail (v : Verdict)
deriving DecidableEq

/-- The wording of the failure. -/
def SearchError.message : SearchError → String
  | .oracle e => e.message
  | .inputDoesNotFail v => s!"input does not fail under the oracle (verdict: {v.name})"

namespace Session

/-- Adopts a smaller candidate. -/
def adopt (s : Session σ) (phase : Phase) (index before after : Nat) : Session σ :=
  let s := s.note (.reducedCandidate phase index before after)
  { s with tally := s.tally.adopt phase }

/-- Goes on to smaller chunks. -/
def refine (s : Session σ) (len granularity : Nat) : Session σ :=
  let s := s.note (.refiningPartition len granularity)
  { s with tally := s.tally.refine }

end Session

/-- Rounds until one ends the search. -/
def descend (scan : Scan σ) (st : State) (hg : 0 < st.granularity) (s : Session σ) :
    Except OracleError State × Session σ :=
  match h : step scan st s with
  | (.error e, s) => (.error e, s)
  | (.ok .done, s) => (.ok st, s)
  | (.ok (.reduced phase index next), s) =>
    descend scan next (step_reduced h).2
      (s.adopt phase index st.candidate.length next.candidate.length)
  | (.ok (.refined g), s) =>
    descend scan ⟨st.candidate, g⟩ (Nat.lt_of_le_of_lt (Nat.zero_le _) (step_refined h hg).1)
      (s.refine st.candidate.length g)
termination_by (st.candidate.length, st.candidate.length - st.granularity)
decreasing_by
  · exact Prod.Lex.left _ _ (step_reduced h).1
  · have := step_refined h hg
    exact Prod.Lex.right _ (by omega)

/-- Probes the input, if the options ask for it. -/
def verify (opts : Options) (o : Oracle σ) (input : Candidate) (s : Session σ) :
    Except SearchError Unit × Session σ :=
  if opts.verifyInput then
    match probe o opts.doubleCheck input s with
    | (.error e, s) => (.error (.oracle e), s)
    | (.ok p, s) =>
      let verdict := p.verdict.getD .unresolved
      if verdict = .fails then (.ok (), s.record p)
      else (.error (.inputDoesNotFail verdict), s.record p)
  else (.ok (), s)

/-- The result at the end of a search. -/
def Session.result (s : Session σ) (input minimized : Candidate) : Result where
  minimized := minimized
  originalSize := input.length
  minimizedSize := minimized.length
  invocationCount := s.tally.invocations
  unresolvedCount := s.tally.unresolved
  complementReductions := s.tally.complementReductions
  subsetReductions := s.tally.subsetReductions
  granularityIncreases := s.tally.granularityIncreases
  cancelledCount := s.tally.cancelled

/-- Searches with any scan. An input of at most one byte is returned as it is. -/
def search (scan : Scan σ) (input : Candidate) (s : Session σ) :
    Except OracleError Candidate × Session σ :=
  if 1 < input.length then
    match descend scan (.initial input) Nat.two_pos s with
    | (.error e, s) => (.error e, s)
    | (.ok st, s) => (.ok st.candidate, s)
  else (.ok input, s)

/-- Minimizes an input with the given scan. -/
def minimizeWith (scan : Scan σ) (opts : Options) (o : Oracle σ) (input : Candidate)
    (s : Session σ) : Except SearchError Result × Session σ :=
  match verify opts o input s with
  | (.error e, s) => (.error e, s)
  | (.ok (), s) =>
    match search scan input s with
    | (.error e, s) => (.error (.oracle e), s)
    | (.ok minimized, s) =>
      (.ok (s.result input minimized),
        s.note (.finished input.length minimized.length s.tally.invocations s.tally.unresolved))

/-- Minimizes an input that is expected to fail, counting from zero. -/
def minimize (opts : Options) (o : Oracle σ) (input : Candidate) (s : Session σ) :
    Except SearchError Result × Session σ :=
  minimizeWith (opts.scan o) opts o input { s with tally := {} }

/-! ## Pools that have to be built

In what stands above, the pool that the options ask for is there. It is built before anything is
asked, and that may fail. -/

/-- What comes of building a pool for so many jobs: nothing to say, or why there is none. -/
abbrev PoolBuilder := (jobs : Nat) → Except String Unit

/-- Builds the pool that the options ask for. Candidates that are probed one after the other need
none. -/
def Options.buildPool (opts : Options) (build : PoolBuilder) : Except String Unit :=
  if opts.jobs = 1 then .ok () else build opts.jobs

/-- Why there is no result where a pool has to be built first. -/
inductive PoolOr (ε : Type) where
  /-- The pool could not be built. -/
  | pool (cause : String)
  /-- There was a pool, or none was needed. -/
  | other (e : ε)
deriving DecidableEq

def PoolOr.map {ε δ : Type} (f : ε → δ) : PoolOr ε → PoolOr δ
  | .pool cause => .pool cause
  | .other e => .other (f e)

/-- Builds the pool that the options ask for and goes on, with a minimization or with one round.
Without the pool nothing is asked. -/
def Options.pooled {ε α : Type} (opts : Options) (build : PoolBuilder)
    (rest : Session σ → Except ε α × Session σ) (s : Session σ) :
    Except (PoolOr ε) α × Session σ :=
  match opts.buildPool build with
  | .error cause => (.error (.pool cause), s)
  | .ok () =>
    let (r, s) := rest s
    (r.mapError .other, s)

end DeltaDebug
