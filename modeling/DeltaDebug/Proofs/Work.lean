import DeltaDebug.Proofs.Cost
import DeltaDebug.Proofs.Run
import Mathlib.Data.Prod.Basic
import Mathlib.Tactic.Ring
import Mathlib.Tactic.SplitIfs

/-
  The work of a search is at most quadratic in the length of the input. `allowanceFor len n` is
  twice the number of probes that a search may still make when `len` bytes are split into `n`
  parts. If the split is the finest, it can delete its bytes one by one, with at most `k` probes
  while `k` bytes are left; before that it has to refine, and the rounds for that double until
  there is a part for each byte.

  Every round is paid for by what it takes from the allowance: a complement (`allowance_complement`),
  a chunk (`allowance_chunk`), a refinement (`allowance_refined`) and the last round
  (`allowance_finest`). A complement may bring back a coarser split, but only by one part, and the
  byte that it lacks pays for the round that is repeated.
-/

namespace DeltaDebug

variable {σ : Type}

/-! ## The allowance -/

/-- Twice the number of probes that a search may still make with `n` parts of `len` bytes. -/
def allowanceFor (len n : Nat) : Nat :=
  if len ≤ 1 then 2 * len
  else len * len + len + 4 + if n < len then 8 * (len - 1) - 4 * n else 0

theorem sq_add_le_sq {k d len : Nat} (h : k + d ≤ len) :
    k * k + 2 * (k * d) + d * d ≤ len * len := by
  calc k * k + 2 * (k * d) + d * d = (k + d) * (k + d) := by ring
    _ ≤ len * len := Nat.mul_le_mul h h

theorem allowance_complement {len n k m : Nat} (hn : 0 < n) (hle : n ≤ len) (hk : k < len)
    (hm : n - 1 ≤ m ∨ k ≤ m) : 2 * n + allowanceFor k m ≤ allowanceFor len n := by
  have hsq : k * k + k + len ≤ len * len := by
    calc k * k + k + len ≤ k * len + len := Nat.add_le_add_right (Nat.mul_le_mul_left k hk) len
      _ = (k + 1) * len := (Nat.succ_mul k len).symm
      _ ≤ len * len := Nat.mul_le_mul_right len hk
  unfold allowanceFor
  split_ifs <;> omega

theorem allowance_chunk {len n k : Nat} (hn : 1 < n) (hpos : 0 < k) (hk : k + (n - 1) ≤ len) :
    4 * n + allowanceFor k (min 2 k) ≤ allowanceFor len n := by
  have hsq := sq_add_le_sq hk
  have hlin : k ≤ k * k := Nat.le_mul_self k
  have hlin' : n - 1 ≤ (n - 1) * (n - 1) := Nat.le_mul_self (n - 1)
  have hcross : n - 1 ≤ k * (n - 1) := Nat.le_mul_of_pos_left _ hpos
  unfold allowanceFor
  split_ifs <;> omega

theorem allowance_refined {len n : Nat} (h : n < len) :
    4 * n + allowanceFor len (min (2 * n) len) ≤ allowanceFor len n := by
  unfold allowanceFor
  split_ifs <;> omega

theorem allowance_finest {len : Nat} (h : 2 ≤ len) : 4 * len ≤ allowanceFor len len := by
  have hsq : (len - 2) * (len - 2) + 2 * ((len - 2) * 2) + 2 * 2 ≤ len * len :=
    sq_add_le_sq (by omega)
  unfold allowanceFor
  split_ifs <;> omega

/-! ## Rounds -/

namespace State

/-- Twice the number of probes that a search may still make from here. -/
def allowance (st : State) : Nat := allowanceFor st.candidate.length st.parts

/-- The probes of a round that finds nothing. -/
def probes (st : State) : Nat := if 1 < st.parts then st.parts + st.parts else st.parts

variable {st : State}

theorem allowance_complements (i : Fin st.parts) :
    2 * st.parts + State.allowance ⟨st.complements i, max (st.parts - 1) 2⟩ ≤ st.allowance := by
  have hk : (st.complements i).length < st.candidate.length :=
    Partition.length_complement_lt st.parts_le i.isLt
  refine allowance_complement (Nat.zero_lt_of_lt i.isLt) st.parts_le hk ?_
  change st.parts - 1 ≤ min (max (st.parts - 1) 2) (st.complements i).length ∨
    (st.complements i).length ≤ min (max (st.parts - 1) 2) (st.complements i).length
  omega

theorem allowance_chunks (i : Fin st.parts) (hn : 1 < st.parts) :
    4 * st.parts + State.allowance ⟨st.chunks i, 2⟩ ≤ st.allowance := by
  have hpos : 0 < (st.chunks i).length := by
    unfold State.chunks
    rw [Partition.length_chunk i.isLt]
    exact Partition.balanced_len_pos i st.parts_le (Nat.zero_lt_of_lt i.isLt)
  exact allowance_chunk hn hpos (Partition.length_chunk_add_le st.parts_le i.isLt)

/-- A round that finds nothing is paid for by the refinement, or because no other follows. -/
theorem allowance_exhausted (hpos : 0 < st.parts) :
    2 * st.probes + (if st.exhausted = .done then 0 else (st.after st.exhausted).allowance) ≤
      st.allowance := by
  have hprobes : st.probes ≤ 2 * st.parts := by
    unfold probes
    split <;> omega
  rcases st.exhausted_cases with ⟨hlt, he⟩ | ⟨heq, he⟩
  · have hparts : State.parts ⟨st.candidate, min (2 * st.parts) st.candidate.length⟩ =
        min (2 * st.parts) st.candidate.length := Nat.min_eq_left (Nat.min_le_right _ _)
    have hpaid : 4 * st.parts +
        State.allowance ⟨st.candidate, min (2 * st.parts) st.candidate.length⟩ ≤
          st.allowance := by
      unfold allowance
      rw [hparts]
      exact allowance_refined hlt
    rw [he, if_neg nofun]
    simp only [State.after]
    omega
  · rw [if_pos he]
    unfold allowance
    rw [← heq]
    rcases Nat.lt_or_ge 1 st.parts with hn | hn
    · have hpaid := allowance_finest hn
      omega
    · have hone : st.parts = 1 := Nat.le_antisymm hn hpos
      unfold probes
      rw [hone]
      decide

end State

section Step

variable {scan : Scan σ} {price : Nat} {st : State} {s s' : Session σ} {r : Step}

theorem Scan.Frugal.of_eq (hf : scan.Frugal price) {count : Nat} {build : Fin count → Candidate}
    {x : Except OracleError (Option (Fin count))} (h : scan count build s = (x, s')) :
    s'.tally.spent ≤ s.tally.spent + price * count := by
  have hle := hf count build s
  rw [h] at hle
  exact hle

/-- The first scan of a round: what it begins with costs nothing. -/
theorem Scan.Frugal.of_first (hf : scan.Frugal price)
    {x : Except OracleError (Option (Fin st.parts))}
    (h : scan st.parts st.complements (s.beginRound st) = (x, s')) :
    s'.tally.spent ≤ s.tally.spent + price * st.parts :=
  hf.of_eq (s := s.beginRound st) h

/-- Every round is paid for by what it takes from the allowance. -/
theorem step_spent (hf : scan.Frugal price) (hg : 0 < st.granularity)
    (h : step scan st s = (.ok r, s')) :
    ∃ probes, s'.tally.spent ≤ s.tally.spent + price * probes ∧
      2 * probes + (if r = .done then 0 else (st.after r).allowance) ≤ st.allowance := by
  obtain ⟨_, rfl, rfl⟩ | ⟨i, hc, rfl⟩ | ⟨i, s1, hc, hn, hs, rfl⟩ | ⟨hne, s1, hc, hs, rfl⟩ :=
    step_ok_cases h
  · exact ⟨0, Nat.le_refl _, Nat.zero_le _⟩
  · exact ⟨st.parts, hf.of_first hc, State.allowance_complements i⟩
  · have hfirst := hf.of_first hc
    have hsecond := hf.of_eq hs
    have hpaid := State.allowance_chunks i hn
    refine ⟨2 * st.parts, ?_, ?_⟩
    · rw [Nat.mul_left_comm]
      omega
    · rw [if_neg nofun, ← Nat.mul_assoc]
      exact hpaid
  · have hfirst := hf.of_first hc
    refine ⟨st.probes, ?_, State.allowance_exhausted (State.parts_pos hg hne)⟩
    unfold State.probes
    split
    case isTrue hn =>
      rw [if_pos hn] at hs
      have hsecond := hf.of_eq hs
      rw [Nat.mul_add]
      omega
    case isFalse hn =>
      rw [if_neg hn] at hs
      rw [hs]
      exact hfirst

end Step

/-! ## Searches -/

theorem Session.spent_proceed (s : Session σ) (st : State) (r : Step) :
    (s.proceed st r).tally.spent = s.tally.spent := by
  cases r with
  | done => rfl
  | refined g => rfl
  | reduced phase i next => cases phase <;> rfl

theorem spent_descend {scan : Scan σ} {price : Nat} (hf : scan.Frugal price) {st st' : State}
    (hg : 0 < st.granularity) {s s' : Session σ} (h : descend scan st hg s = (.ok st', s')) :
    2 * s'.tally.spent ≤ 2 * s.tally.spent + price * st.allowance := by
  refine descend_potential scan hg s (fun s => 2 * s.tally.spent)
    (fun st => price * st.allowance) (fun _ => 0) ?_ ?_ h
  · intro st s r s' hg hstep hr
    obtain ⟨probes, hspent, hpaid⟩ := step_spent hf hg hstep
    rw [if_neg hr] at hpaid
    have hprice := Nat.mul_le_mul_left price hpaid
    rw [Nat.mul_add, Nat.mul_left_comm] at hprice
    rw [s'.spent_proceed]
    omega
  · intro st s s' hg hstep
    obtain ⟨probes, hspent, hpaid⟩ := step_spent hf hg hstep
    rw [if_pos rfl] at hpaid
    have hprice := Nat.mul_le_mul_left price hpaid
    rw [Nat.mul_add, Nat.mul_left_comm] at hprice
    omega

theorem State.allowance_initial {input : Candidate} (h : 2 ≤ input.length) :
    (State.initial input).allowance = input.length * input.length + 9 * input.length - 12 := by
  have hparts : (State.initial input).parts = 2 := Nat.min_eq_left h
  unfold State.allowance
  rw [hparts]
  change allowanceFor input.length 2 = _
  unfold allowanceFor
  rw [if_neg (by omega)]
  split
  case isTrue => omega
  case isFalse hlen =>
    rw [show input.length = 2 by omega]

/-- What the counts of a result for `len` bytes are bounded by. -/
structure Result.WorkWithin (r : Result) (confirm : Bool) (len : Nat) : Prop where
  short : len ≤ 1 → r.invocationCount = 0 ∧ r.cancelledCount = 0
  once : 2 ≤ len → confirm = false →
    2 * (r.invocationCount + r.cancelledCount) ≤ len * len + 9 * len - 12
  twice : 2 ≤ len → confirm = true → 2 * r.invocationCount ≤ 2 * (len * len + 9 * len - 12)

theorem workWithin_of_minimizeWith {scan : Scan σ} {opts : Options}
    (hf : scan.Frugal (price opts.doubleCheck)) {o : Oracle σ} {input : Candidate}
    {s s' : Session σ} {r : Result} (hv : opts.verifyInput = false) (htally : s.tally = {})
    (h : minimizeWith scan opts o input s = (.ok r, s')) :
    r.WorkWithin opts.doubleCheck input.length := by
  obtain ⟨s1, s2, m, hverify, hsearch, rfl, _⟩ := minimizeWith_ok h
  obtain rfl : s = s1 := by
    unfold verify at hverify
    rw [hv] at hverify
    exact congrArg Prod.snd hverify
  rcases search_ok hsearch with ⟨hshort, rfl, _⟩ | ⟨hlong, ⟨st, hdescend, rfl⟩, _⟩
  · rw [search_of_short hshort] at hsearch
    cases hsearch
    refine ⟨fun _ => ?_, fun hlen => by omega, fun hlen => by omega⟩
    simp only [Session.result, htally]
    trivial
  · have hspent := spent_descend hf Nat.two_pos hdescend
    have hzero : s.tally.spent = 0 := by rw [htally]; rfl
    rw [State.allowance_initial hlong, hzero, Nat.mul_zero, Nat.zero_add] at hspent
    have hsum : s2.tally.spent = s2.tally.invocations + s2.tally.cancelled := rfl
    refine ⟨fun hshort => by omega, fun _ hconfirm => ?_, fun _ hconfirm => ?_⟩
    · rw [hconfirm, show price false = 1 from rfl, Nat.one_mul] at hspent
      exact hspent
    · rw [hconfirm, show price true = 2 from rfl] at hspent
      simp only [Session.result]
      omega

/-- **The work is at most quadratic.** Whatever the oracle answers, and however the workers of a
    pool mix their moves, a result for `n` bytes took at most `(n² + 9n - 12) / 2` calls with a
    verdict and probes that came to nothing, or twice as many calls if failures had to be confirmed;
    for at most one byte it took none. The input itself is not probed here. -/
theorem work_quadratic (o : Oracle σ) (opts : Options) (hv : opts.verifyInput = false)
    (input : Candidate) (s : Session σ) :
    (∀ r s', minimize opts o input s = (.ok r, s') →
      r.WorkWithin opts.doubleCheck input.length) ∧
    ∀ (schedule : Pool.Schedule σ opts.doubleCheck) r s',
      minimizeWith (Pool.scanBy o schedule) opts o input { s with tally := {} } = (.ok r, s') →
      r.WorkWithin opts.doubleCheck input.length := by
  refine ⟨fun r s' h => ?_, fun schedule r s' h => ?_⟩
  · exact workWithin_of_minimizeWith (opts.frugal_scan o) hv rfl h
  · exact workWithin_of_minimizeWith (Pool.frugal_scanBy o schedule) hv rfl h

/-- The oracle that fails in the calls of these numbers, whatever it is asked about. -/
def Oracle.failingCalls (ns : List Nat) : Oracle Nat where
  call _ _ n := (⟨.ok (some (if n ∈ ns then .fails else .passes)), []⟩, n + 1)

/-- An oracle that contradicts itself makes a search do all the work that there may be. -/
theorem work_quadratic_failingCalls :
    ∃ r s', minimize {} (Oracle.failingCalls [6, 10]) [97, 98, 99] (Session.start 0) =
        (.ok r, s') ∧
      r.WorkWithin false 3 ∧ 2 * (r.invocationCount + r.cancelledCount) = 3 * 3 + 9 * 3 - 12 := by
  have hseq : (minimize {} (Oracle.failingCalls [6, 10]) [97, 98, 99] (Session.start 0)).1 =
      .ok ⟨[98], 3, 1, 12, 0, 1, 1, 1, 0⟩ := by
    cbv
  have h := Prod.fst_eq_iff.mp hseq
  exact ⟨_, _, h, (work_quadratic _ _ rfl _ _).1 _ _ h, rfl⟩

end DeltaDebug
