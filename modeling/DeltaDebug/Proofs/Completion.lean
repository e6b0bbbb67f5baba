import DeltaDebug.Proofs.Pool.Decision
import DeltaDebug.Proofs.Run

/-
  Searches that come to a result. An error of a search is an error of one of its scans, and if the
  scan decides, that is an answer of the oracle. So a search against a deterministic oracle that
  never errs ends well (`descend_exists_ok`), and so does a minimization, unless it probes an input
  that does not fail (`minimizeWith_exists_ok`).
-/

namespace DeltaDebug

variable {σ : Type} {scan : Scan σ} {f : Candidate → Answer}

/-- The target can be run on every candidate. -/
def NeverErrs (f : Candidate → Answer) : Prop := ∀ c e, f c ≠ .error e

theorem decision_ne_error {α : Type} (hf : NeverErrs f) (build : α → Candidate) (is : List α)
    (e : OracleError) : decision f build is ≠ .error e := by
  induction is with
  | nil => nofun
  | cons i rest ih =>
    rcases h : f (build i) with e' | v
    · exact absurd h (hf _ _)
    · by_cases hv : v = some .fails
      · rw [decision_cons_fails (hv ▸ h)]
        nofun
      · rw [decision_cons_ok h hv]
        exact ih

theorem Scan.Decides.ne_error (hd : scan.Decides f) (hf : NeverErrs f) {n : Nat}
    {build : Fin n → Candidate} {s s' : Session σ} {e : OracleError} :
    scan n build s ≠ (.error e, s') := by
  intro h
  have hdecision := hd n build s
  rw [h] at hdecision
  exact decision_ne_error hf build _ e hdecision.symm

theorem step_exists_ok (hd : scan.Decides f) (hf : NeverErrs f) (st : State) (s : Session σ) :
    ∃ r s', step scan st s = (.ok r, s') := by
  rcases h : step scan st s with ⟨e | r, s'⟩
  · have hround := step_rounded scan st s
    rw [h] at hround
    cases hround with
    | complementError _ hc => exact absurd hc (hd.ne_error hf)
    | chunkError _ _ _ hs => exact absurd hs (hd.ne_error hf)
  · exact ⟨r, s', rfl⟩

theorem descend_exists_ok (hd : scan.Decides f) (hf : NeverErrs f) (st : State)
    (hg : 0 < st.granularity) (s : Session σ) :
    ∃ st' s', descend scan st hg s = (.ok st', s') := by
  induction st, hg, s using descend_induction scan with
  | error st hg s e s' h =>
    obtain ⟨r, s1, hstep⟩ := step_exists_ok hd hf st s
    rw [h] at hstep
    cases hstep
  | done st hg s s' h => exact ⟨st, s', descend_done h⟩
  | next st hg s r s' h hr ih =>
    rw [descend_next h hr]
    exact ih

/-- Probing an input that fails does no harm. -/
theorem verify_exists_ok {o : Oracle σ} (ho : o.AnswersLike f) {opts : Options} {input : Candidate}
    (hinput : opts.verifyInput = true → f input = .ok (some .fails)) (s : Session σ) :
    ∃ s', verify opts o input s = (.ok (), s') := by
  unfold verify
  split
  case isTrue hv =>
    obtain ⟨a, ha, hprobe⟩ := probe_of_akin ho opts.doubleCheck input s
    rw [ha.fails_iff.mpr (hinput hv)] at hprobe
    generalize probe o opts.doubleCheck input s = x at hprobe ⊢
    obtain ⟨_, s1⟩ := x
    obtain rfl := hprobe
    exact ⟨_, rfl⟩
  case isFalse => exact ⟨s, rfl⟩

theorem search_exists_ok (hd : scan.Decides f) (hf : NeverErrs f) (input : Candidate)
    (s : Session σ) : ∃ m s', search scan input s = (.ok m, s') := by
  rcases Nat.lt_or_ge 1 input.length with hlen | hshort
  · obtain ⟨st, s', hdescend⟩ := descend_exists_ok hd hf (.initial input) Nat.two_pos s
    exact ⟨_, _, search_of_descend hlen hdescend⟩
  · exact ⟨_, _, search_of_short hshort⟩

theorem minimizeWith_exists_ok_of_akin (hd : scan.Decides f) (hf : NeverErrs f) {o : Oracle σ}
    (ho : o.AnswersLike f) {opts : Options} {input : Candidate}
    (hinput : opts.verifyInput = true → f input = .ok (some .fails)) (s : Session σ) :
    ∃ r s', minimizeWith scan opts o input s = (.ok r, s') := by
  obtain ⟨s1, hverify⟩ := verify_exists_ok ho hinput s
  obtain ⟨m, s2, hsearch⟩ := search_exists_ok hd hf input s1
  exact ⟨_, _, minimizeWith_of_search hverify hsearch⟩

theorem minimizeWith_exists_ok (hd : scan.Decides f) (hf : NeverErrs f) {o : Oracle σ}
    (ho : o.AnswersBy f) {opts : Options} {input : Candidate}
    (hinput : opts.verifyInput = true → f input = .ok (some .fails)) (s : Session σ) :
    ∃ r s', minimizeWith scan opts o input s = (.ok r, s') :=
  minimizeWith_exists_ok_of_akin hd hf ho.answersLike hinput s

end DeltaDebug
