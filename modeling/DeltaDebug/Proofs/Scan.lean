import DeltaDebug.Proofs.Inquiry

/-
  Scans. A scan in order makes one inquiry after the other, up to the first candidate that fails or
  cannot be probed (`Scanned`, `firstFailing_scanned`); what these inquiries leave behind in the
  session is `Recorded`. This holds of every oracle, also of one that contradicts itself.

  Against a deterministic oracle a scan has one right outcome: the first index whose candidate
  fails, unless an error comes before it (`decision`). `Scan.Decides` says that a scan always comes
  to that outcome. Scans in order do (`decides_scanInOrder`), and so do the scans by a pool, in
  modules of their own. It is enough for them that the failures and the errors are fixed
  (`Oracle.AnswersLike`).
-/

namespace DeltaDebug

variable {σ α : Type} {confirm : Bool}

/-! ## What inquiries leave behind -/

/-- Counts a probe that came to an end; an error is not counted. -/
def Tally.enter (t : Tally) : Except OracleError Probe → Tally
  | .ok p => t.record p
  | .error _ => t

/-- What some inquiries, made and counted one after the other, do to a session. -/
structure Recorded (o : Oracle σ) (s : Session σ) (qs : List (Inquiry confirm)) (s' : Session σ) :
    Prop where
  calls : s'.calls = s.calls ++ qs.flatMap Inquiry.calls
  gives : ∀ q ∈ qs, ∀ call ∈ q.calls, o.Gives q.candidate call.2
  tally : s'.tally = qs.foldl (fun t q => t.enter q.finding) s.tally

namespace Recorded

variable {o : Oracle σ} {s s1 s' : Session σ}

theorem nil (o : Oracle σ) (s : Session σ) : Recorded o s ([] : List (Inquiry confirm)) s :=
  ⟨by simp, by simp, rfl⟩

theorem append {qs qs' : List (Inquiry confirm)} (h : Recorded o s qs s1)
    (h' : Recorded o s1 qs' s') : Recorded o s (qs ++ qs') s' := by
  refine ⟨?_, ?_, ?_⟩
  · rw [h'.calls, h.calls, List.flatMap_append, List.append_assoc]
  · intro q hq
    rcases List.mem_append.mp hq with hq | hq
    · exact h.gives q hq
    · exact h'.gives q hq
  · rw [h'.tally, h.tally, List.foldl_append]

/-- One probe that is counted, if there is something to count. -/
theorem single {q : Inquiry confirm} {r : Except OracleError Probe} (h : ProbedAs o s q (r, s1))
    (hcalls : s'.calls = s1.calls) (htally : s'.tally = s1.tally.enter r) :
    Recorded o s [q] s' := by
  refine ⟨?_, ?_, ?_⟩
  · rw [hcalls, h.calls]; simp
  · intro q' hq'
    obtain rfl := List.mem_singleton.mp hq'
    exact h.gives
  · rw [htally, h.tally]
    exact congrArg _ h.finding

end Recorded

/-! ## In order -/

/-- How a scan in order goes: an inquiry for each item, up to the first that fails or errs. -/
inductive Scanned (build : α → Candidate) :
    List α → List (Inquiry confirm) → Except OracleError (Option α) → Prop
  | nil : Scanned build [] [] (.ok none)
  | error {i : α} {rest : List α} {q : Inquiry confirm} {e : OracleError}
      (hq : q.candidate = build i) (h : q.finding = .error e) :
      Scanned build (i :: rest) [q] (.error e)
  | found {i : α} {rest : List α} {q : Inquiry confirm}
      (hq : q.candidate = build i) (h : q.Fails) : Scanned build (i :: rest) [q] (.ok (some i))
  | next {i : α} {rest : List α} {q : Inquiry confirm} {qs : List (Inquiry confirm)}
      {r : Except OracleError (Option α)} {p : Probe} (hq : q.candidate = build i)
      (h : q.finding = .ok p) (hp : p.fails = false) (tail : Scanned build rest qs r) :
      Scanned build (i :: rest) (q :: qs) r

theorem firstFailing_scanned (o : Oracle σ) (confirm : Bool) (build : α → Candidate)
    (is : List α) (s : Session σ) :
    ∃ qs : List (Inquiry confirm), Scanned build is qs (firstFailing o confirm build is s).1 ∧
      Recorded o s qs (firstFailing o confirm build is s).2 := by
  induction is generalizing s with
  | nil => exact ⟨[], .nil, .nil o s⟩
  | cons i rest ih =>
    obtain ⟨q, hq, h⟩ := probe_inquiry o confirm (build i) s
    rcases hp : probe o confirm (build i) s with ⟨r, s1⟩
    rw [hp] at h
    cases r with
    | error e =>
      simp only [firstFailing, hp]
      exact ⟨[q], .error hq h.finding.symm, .single h rfl rfl⟩
    | ok p =>
      have hone : Recorded o s [q] (s1.record p) := .single h rfl rfl
      simp only [firstFailing, hp]
      cases hf : p.fails with
      | true => exact ⟨[q], .found hq ⟨p, h.finding.symm, hf⟩, hone⟩
      | false =>
        obtain ⟨qs, hs, hr⟩ := ih (s1.record p)
        exact ⟨q :: qs, .next hq h.finding.symm hf hs, hone.append hr⟩

namespace Scanned

variable {build : α → Candidate} {is : List α} {qs : List (Inquiry confirm)}

/-- A scan asks about its own candidates only. -/
theorem candidate_mem {r : Except OracleError (Option α)} (h : Scanned build is qs r) :
    ∀ q ∈ qs, ∃ i ∈ is, q.candidate = build i := by
  induction h with
  | nil => simp
  | error hq _ => simp [hq]
  | found hq _ => simp [hq]
  | next hq _ _ _ ih =>
    intro q' hq'
    rcases List.mem_cons.mp hq' with rfl | hq'
    · exact ⟨_, List.mem_cons_self, hq⟩
    · obtain ⟨i, hi, he⟩ := ih q' hq'
      exact ⟨i, List.mem_cons_of_mem _ hi, he⟩

/-- A scan that finds nothing asked about every candidate, in order, and saw none fail. -/
theorem exhausted (h : Scanned build is qs (.ok none)) :
    qs.map Inquiry.candidate = is.map build ∧ ∀ q ∈ qs, ¬ q.Fails := by
  generalize hr : (Except.ok none : Except OracleError (Option α)) = r at h
  induction h with
  | nil => simp
  | error _ _ => cases hr
  | found _ _ => cases hr
  | next hq hp hf _ ih =>
    obtain ⟨hmap, hnone⟩ := ih hr
    refine ⟨by simp [hq, hmap], ?_⟩
    intro q' hq'
    rcases List.mem_cons.mp hq' with rfl | hq'
    · rintro ⟨p', hp', hf'⟩
      rw [hp] at hp'
      cases hp'
      rw [hf] at hf'
      cases hf'
    · exact hnone q' hq'

/-- A scan that finds something asked about it last, and saw it fail. -/
theorem last_fails {i : α} (h : Scanned build is qs (.ok (some i))) :
    ∃ earlier q, qs = earlier ++ [q] ∧ q.candidate = build i ∧ q.Fails := by
  generalize hr : (Except.ok (some i) : Except OracleError (Option α)) = r at h
  induction h with
  | nil => cases hr
  | error _ _ => cases hr
  | found hq hf =>
    cases hr
    exact ⟨[], _, rfl, hq, hf⟩
  | @next _ _ q _ _ _ _ _ _ _ ih =>
    obtain ⟨earlier, last, rfl, hc, hf⟩ := ih hr
    exact ⟨q :: earlier, last, rfl, hc, hf⟩

end Scanned

/-! ## Deterministic oracles -/

/-- The first item whose candidate fails under `f`, unless an error comes before it. -/
def decision (f : Candidate → Answer) (build : α → Candidate) :
    List α → Except OracleError (Option α)
  | [] => .ok none
  | i :: rest =>
    match f (build i) with
    | .error e => .error e
    | .ok (some .fails) => .ok (some i)
    | .ok _ => decision f build rest

section Decision

variable {f : Candidate → Answer} {build : α → Candidate} {i : α} {rest : List α}

theorem decision_cons_error {e : OracleError} (h : f (build i) = .error e) :
    decision f build (i :: rest) = .error e := by
  simp only [decision, h]

theorem decision_cons_fails (h : f (build i) = .ok (some .fails)) :
    decision f build (i :: rest) = .ok (some i) := by
  simp only [decision, h]

theorem decision_cons_ok {v : Option Verdict} (h : f (build i) = .ok v) (hv : v ≠ some .fails) :
    decision f build (i :: rest) = decision f build rest := by
  simp only [decision, h]

/-- The outcome of a scan at its first item is that of the probe there. -/
theorem decision_cons_settle {a : Answer} {p : Probe} (h : settle confirm a = .ok p)
    (ha : Akin a (f (build i))) :
    decision f build (i :: rest) = if p.fails then .ok (some i) else decision f build rest := by
  have hp := (fails_of_settle h).trans ha.fails_iff
  rcases hf : f (build i) with e | v
  · rw [(ha.error_iff e).mpr hf] at h
    cases h
  · cases hb : p.fails with
    | true =>
      rw [hb, hf] at hp
      rw [decision_cons_fails (hf.trans (hp.mp rfl))]
      rfl
    | false =>
      rw [decision_cons_ok hf]
      · rfl
      · rintro rfl
        rw [hb] at hp
        exact absurd (hp.mpr hf) (by simp)

/-- If nothing is found, no candidate fails. -/
theorem decision_none {is : List α} (h : decision f build is = .ok none) :
    ∀ i ∈ is, f (build i) ≠ .ok (some .fails) := by
  induction is with
  | nil => simp
  | cons i rest ih =>
    rcases hf : f (build i) with e | v
    · rw [decision_cons_error hf] at h
      cases h
    · by_cases hv : v = some .fails
      · rw [decision_cons_fails (hv ▸ hf)] at h
        cases h
      · rw [decision_cons_ok hf hv] at h
        intro j hj
        rcases List.mem_cons.mp hj with rfl | hj
        · rw [hf]
          exact fun he => hv (Except.ok.inj he)
        · exact ih h j hj

/-- What is found fails. -/
theorem decision_some {is : List α} (h : decision f build is = .ok (some i)) :
    f (build i) = .ok (some .fails) := by
  induction is with
  | nil => cases h
  | cons j rest ih =>
    rcases hf : f (build j) with e | v
    · rw [decision_cons_error hf] at h
      cases h
    · by_cases hv : v = some .fails
      · rw [decision_cons_fails (hv ▸ hf)] at h
        cases h
        rw [hf, hv]
      · rw [decision_cons_ok hf hv] at h
        exact ih h

end Decision

/-- The counts of reductions and refinements. -/
def Tally.progress (t : Tally) : Nat × Nat × Nat :=
  (t.complementReductions, t.subsetReductions, t.granularityIncreases)

theorem Tally.progress_eq_iff {t t' : Tally} : t.progress = t'.progress ↔
    t.complementReductions = t'.complementReductions ∧
      t.subsetReductions = t'.subsetReductions ∧
      t.granularityIncreases = t'.granularityIncreases := by
  simp only [Tally.progress, Prod.mk.injEq]

@[simp] theorem Tally.progress_record (t : Tally) (p : Probe) :
    (t.record p).progress = t.progress := by
  unfold Tally.record
  split <;> rfl

theorem Tally.progress_enter (t : Tally) (r : Except OracleError Probe) :
    (t.enter r).progress = t.progress := by
  cases r with
  | ok p => exact t.progress_record p
  | error e => rfl

/-- Probes alone are no progress. -/
theorem Recorded.progress_eq {o : Oracle σ} {s s' : Session σ} {qs : List (Inquiry confirm)}
    (h : Recorded o s qs s') : s'.tally.progress = s.tally.progress := by
  have hfold : ∀ t : Tally,
      (qs.foldl (fun t q => t.enter q.finding) t).progress = t.progress := by
    clear h
    induction qs with
    | nil => exact fun _ => rfl
    | cons q qs ih => exact fun t => (ih _).trans (t.progress_enter q.finding)
  rw [h.tally, hfold]

/-- The scan leaves the counts of reductions and refinements to the search. -/
def Scan.KeepsProgress (scan : Scan σ) : Prop :=
  ∀ (count : Nat) (build : Fin count → Candidate) (s : Session σ),
    (scan count build s).2.tally.progress = s.tally.progress

theorem keepsProgress_scanInOrder (o : Oracle σ) (confirm : Bool) :
    (scanInOrder o confirm).KeepsProgress := by
  intro count build s
  obtain ⟨qs, _, hr⟩ := firstFailing_scanned o confirm build (List.finRange count) s
  exact hr.progress_eq

/-- The scan always comes to the right outcome for a deterministic oracle. -/
def Scan.Decides (scan : Scan σ) (f : Candidate → Answer) : Prop :=
  ∀ (count : Nat) (build : Fin count → Candidate) (s : Session σ),
    (scan count build s).1 = decision f build (List.finRange count)

section Decides

variable {scan : Scan σ} {f : Candidate → Answer} {n : Nat} {build : Fin n → Candidate}
  {s s' : Session σ}

theorem Scan.Decides.of_found (hd : scan.Decides f) {i : Fin n}
    (h : scan n build s = (.ok (some i), s')) : f (build i) = .ok (some .fails) := by
  have hi := hd n build s
  rw [h] at hi
  exact decision_some hi.symm

theorem Scan.Decides.of_none (hd : scan.Decides f) (h : scan n build s = (.ok none, s')) :
    ∀ d ∈ (List.finRange n).map build, f d ≠ .ok (some .fails) := by
  have hnone := hd n build s
  rw [h] at hnone
  intro d hmem
  obtain ⟨i, hi, rfl⟩ := List.mem_map.mp hmem
  exact decision_none hnone.symm i hi

end Decides

theorem Scanned.eq_decision {f : Candidate → Answer} {build : α → Candidate} {is : List α}
    {qs : List (Inquiry confirm)} {r : Except OracleError (Option α)} (h : Scanned build is qs r)
    (hf : ∀ q ∈ qs, ∃ a, Akin a (f q.candidate) ∧ q.finding = settle confirm a) :
    r = decision f build is := by
  induction h with
  | nil => rfl
  | error hq he =>
    obtain ⟨a, ha, hsettle⟩ := hf _ List.mem_cons_self
    rw [hsettle] at he
    rw [hq] at ha
    rw [decision_cons_error ((ha.error_iff _).mp (settle_eq_error.mp he))]
  | found hq hfails =>
    obtain ⟨p, hp, hpf⟩ := hfails
    obtain ⟨a, ha, hsettle⟩ := hf _ List.mem_cons_self
    rw [hsettle] at hp
    rw [decision_cons_settle hp (hq ▸ ha), hpf]
    rfl
  | next hq hp hpf _ ih =>
    obtain ⟨a, ha, hsettle⟩ := hf _ List.mem_cons_self
    rw [hsettle] at hp
    rw [decision_cons_settle hp (hq ▸ ha), hpf]
    exact ih fun q hmem => hf q (List.mem_cons_of_mem _ hmem)

/-- Scans in order decide. -/
theorem decides_scanInOrder_of_akin {o : Oracle σ} {f : Candidate → Answer}
    (hf : o.AnswersLike f) (confirm : Bool) : (scanInOrder o confirm).Decides f := by
  intro count build s
  obtain ⟨qs, hs, hr⟩ := firstFailing_scanned o confirm build (List.finRange count) s
  refine hs.eq_decision fun q hq => ?_
  exact Inquiry.finding_of_akin fun call hcall => hf _ _ (hr.gives q hq call hcall)

theorem decides_scanInOrder {o : Oracle σ} {f : Candidate → Answer} (hf : o.AnswersBy f)
    (confirm : Bool) : (scanInOrder o confirm).Decides f :=
  decides_scanInOrder_of_akin hf.answersLike confirm

end DeltaDebug
