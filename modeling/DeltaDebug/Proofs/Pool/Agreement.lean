import DeltaDebug.Proofs.Pool.Decision
import DeltaDebug.Proofs.Pool.Schedule
import DeltaDebug.Proofs.Run

/-
  A pool does what a search in order does. With a deterministic oracle all scans that a search may
  make decide, so they have the same outcomes; two searches over such scans make the same rounds
  and count them alike (`descend_alike`). What the searches do not have in common is what their
  scans cost: the calls, and the probes that came to nothing.

  `pool_agrees` is the statement about whole minimizations, for every legal mix of the workers'
  moves. That there are workers at all is assumed where they have to be found first
  (`Options.buildPool`); without them there is no search to speak of.
-/

namespace DeltaDebug

variable {α σ τ : Type}

/-- Two ways to the same outcome, with the same counts of reductions and refinements. -/
structure Alike (x : α × Session σ) (y : α × Session τ) : Prop where
  outcome : x.1 = y.1
  progress : x.2.tally.progress = y.2.tally.progress

/-! ## Rounds and searches -/

theorem progress_proceed {s : Session σ} {t : Session τ}
    (h : s.tally.progress = t.tally.progress) (st : State) (r : Step) :
    (s.proceed st r).tally.progress = (t.proceed st r).tally.progress := by
  obtain ⟨hc, hs, hg⟩ := Tally.progress_eq_iff.mp h
  cases r with
  | done => exact h
  | refined g =>
    simp only [Session.proceed, Session.refine, Session.note, Tally.refine, Tally.progress, hc, hs,
      hg]
  | reduced phase i next =>
    cases phase <;>
      simp only [Session.proceed, Session.adopt, Session.note, Tally.adopt, Tally.progress, hc, hs,
        hg]

section Alike

variable {scan : Scan σ} {scan' : Scan τ} (h : scan.Agree scan') (hp : scan.KeepsProgress)
  (hp' : scan'.KeepsProgress)

include h hp hp'

theorem step_alike (st : State) {s : Session σ} {t : Session τ}
    (hst : s.tally.progress = t.tally.progress) : Alike (step scan st s) (step scan' st t) := by
  refine ⟨step_agree h st s t, ?_⟩
  rw [progress_step hp, progress_step hp', hst]

/-- Searches over scans that agree go alike. -/
theorem descend_alike (st : State) (hg : 0 < st.granularity) (s : Session σ) (t : Session τ)
    (hst : s.tally.progress = t.tally.progress) :
    Alike (descend scan st hg s) (descend scan' st hg t) := by
  induction st, hg, s, t using descend_induction_agree h with
  | error st hg s t e s' t' hs ht =>
    have hround := step_alike h hp hp' st hst
    rw [hs, ht] at hround
    rw [descend_error hs, descend_error ht]
    exact ⟨rfl, hround.progress⟩
  | done st hg s t s' t' hs ht =>
    have hround := step_alike h hp hp' st hst
    rw [hs, ht] at hround
    rw [descend_done hs, descend_done ht]
    exact ⟨rfl, hround.progress⟩
  | next st hg s t r s' t' hs ht hr ih =>
    have hround := step_alike h hp hp' st hst
    rw [hs, ht] at hround
    rw [descend_next hs hr, descend_next ht hr]
    exact ih (progress_proceed hround.progress st r)

theorem search_alike (input : Candidate) {s : Session σ} {t : Session τ}
    (hst : s.tally.progress = t.tally.progress) :
    Alike (search scan input s) (search scan' input t) := by
  have hd := descend_alike h hp hp' (.initial input) Nat.two_pos s t hst
  unfold search
  split
  · generalize descend scan (.initial input) Nat.two_pos s = x at hd ⊢
    generalize descend scan' (.initial input) Nat.two_pos t = y at hd ⊢
    obtain ⟨r, s'⟩ := x
    obtain ⟨r', t'⟩ := y
    obtain rfl : r = r' := hd.outcome
    cases r with
    | error e => exact ⟨rfl, hd.progress⟩
    | ok st => exact ⟨rfl, hd.progress⟩
  · exact ⟨rfl, hst⟩

end Alike

/-- With a deterministic oracle, it does not matter what happened before the input is probed. -/
theorem verify_alike {o : Oracle σ} {f : Candidate → Answer} (hf : o.AnswersBy f) (opts : Options)
    (input : Candidate) {s t : Session σ} (hst : s.tally.progress = t.tally.progress) :
    Alike (verify opts o input s) (verify opts o input t) := by
  have hs := probe_settle hf opts.doubleCheck input s
  have ht := probe_settle hf opts.doubleCheck input t
  obtain ⟨_, _, hs'⟩ := probe_inquiry o opts.doubleCheck input s
  obtain ⟨_, _, ht'⟩ := probe_inquiry o opts.doubleCheck input t
  have hprogress : (probe o opts.doubleCheck input s).2.tally.progress =
      (probe o opts.doubleCheck input t).2.tally.progress := by
    rw [hs'.tally, ht'.tally, hst]
  unfold verify
  split
  · generalize probe o opts.doubleCheck input s = x at hs hprogress ⊢
    generalize probe o opts.doubleCheck input t = y at ht hprogress ⊢
    obtain ⟨r, s1⟩ := x
    obtain ⟨r', t1⟩ := y
    obtain rfl : r = r' := hs.trans ht.symm
    cases r with
    | error e => exact ⟨rfl, hprogress⟩
    | ok p =>
      have hrecord : (s1.record p).tally.progress = (t1.record p).tally.progress := by
        simpa only [Session.record, Tally.progress_record] using hprogress
      dsimp only
      split
      · exact ⟨rfl, hrecord⟩
      · exact ⟨rfl, hrecord⟩
  · exact ⟨rfl, hst⟩

/-! ## Minimizations -/

/-- Two results of searches that found the same, whatever it took. -/
structure Result.SameSearch (r r' : Result) : Prop where
  minimized : r.minimized = r'.minimized
  originalSize : r.originalSize = r'.originalSize
  minimizedSize : r.minimizedSize = r'.minimizedSize
  complementReductions : r.complementReductions = r'.complementReductions
  subsetReductions : r.subsetReductions = r'.subsetReductions
  granularityIncreases : r.granularityIncreases = r'.granularityIncreases

/-- The same error, or results of searches that found the same. -/
inductive SameOutcome {ε : Type} : Except ε Result → Except ε Result → Prop
  | error (e : ε) : SameOutcome (.error e) (.error e)
  | ok {r r' : Result} (h : r.SameSearch r') : SameOutcome (.ok r) (.ok r')

theorem sameSearch_result {s : Session σ} {t : Session τ}
    (h : s.tally.progress = t.tally.progress) (input m : Candidate) :
    (s.result input m).SameSearch (t.result input m) := by
  obtain ⟨hc, hs, hg⟩ := Tally.progress_eq_iff.mp h
  exact ⟨rfl, rfl, rfl, hc, hs, hg⟩

theorem minimizeWith_sameOutcome {o : Oracle σ} {f : Candidate → Answer} (hf : o.AnswersBy f)
    {scan scan' : Scan σ} (h : scan.Agree scan') (hp : scan.KeepsProgress)
    (hp' : scan'.KeepsProgress) (opts : Options) (input : Candidate) {s t : Session σ}
    (hst : s.tally.progress = t.tally.progress) :
    SameOutcome (minimizeWith scan opts o input s).1 (minimizeWith scan' opts o input t).1 := by
  have hv := verify_alike hf opts input hst
  unfold minimizeWith
  generalize verify opts o input s = x at hv ⊢
  generalize verify opts o input t = y at hv ⊢
  obtain ⟨r, s1⟩ := x
  obtain ⟨r', t1⟩ := y
  obtain rfl : r = r' := hv.outcome
  cases r with
  | error e => exact .error e
  | ok _ =>
    have hsearch := search_alike h hp hp' input hv.progress
    dsimp only
    generalize search scan input s1 = x at hsearch ⊢
    generalize search scan' input t1 = y at hsearch ⊢
    obtain ⟨r, s2⟩ := x
    obtain ⟨r', t2⟩ := y
    obtain rfl : r = r' := hsearch.outcome
    cases r with
    | error e => exact .error _
    | ok m => exact .ok (sameSearch_result hsearch.progress input m)

/-- With a pool that was built, a minimization goes as if it had been there; one in order needs
    none. -/
theorem SameOutcome.pooled {run run' : Session σ → Except SearchError Result × Session σ}
    {s t : Session σ} (h : SameOutcome (run s).1 (run' t).1) {opts opts' : Options}
    {build : PoolBuilder} (hbuilt : opts.buildPool build = .ok ())
    (hbuilt' : opts'.buildPool build = .ok ()) :
    SameOutcome (opts.pooled build run s).1 (opts'.pooled build run' t).1 := by
  unfold Options.pooled
  rw [hbuilt, hbuilt']
  dsimp only
  generalize (run s).1 = x at h ⊢
  generalize (run' t).1 = y at h ⊢
  cases h with
  | error e => exact .error _
  | ok h => exact .ok h

theorem SameOutcome.exists_ok {ε : Type} {x : Except ε Result} {r : Result}
    (h : SameOutcome x (.ok r)) : ∃ r', x = .ok r' ∧ r'.SameSearch r := by
  cases h with
  | ok h => exact ⟨_, rfl, h⟩

/-- **A pool agrees with a search in order.** Against a deterministic oracle, with any options, a
    minimization comes to the same error as one in order, or its result agrees with that of one in
    order in all but the calls that were made. So it does if the workers of the pool mix their
    moves in any other legal way. Where the pool has to be built first, both hold if it was built;
    a search in order needs no pool. -/
theorem pool_agrees (o : Oracle σ) (f : Candidate → Answer) (hf : o.AnswersBy f) (opts : Options)
    (input : Candidate) (s t : Session σ) :
    let inOrder : Options := { opts with jobs := 1 }
    let byPool (schedule : Pool.Schedule σ opts.doubleCheck) (s : Session σ) :=
      minimizeWith (Pool.scanBy o schedule) opts o input { s with tally := {} }
    (SameOutcome (minimize opts o input s).1 (minimize inOrder o input t).1 ∧
      ∀ schedule, (schedule.Legal fun c a => a = f c) →
        SameOutcome (byPool schedule s).1 (minimize inOrder o input t).1) ∧
    ∀ build : PoolBuilder, opts.buildPool build = .ok () →
      SameOutcome (opts.pooled build (minimize opts o input) s).1
        (inOrder.pooled build (minimize inOrder o input) t).1 ∧
      ∀ schedule, (schedule.Legal fun c a => a = f c) →
        SameOutcome (opts.pooled build (byPool schedule) s).1
          (inOrder.pooled build (minimize inOrder o input) t).1 := by
  intro inOrder byPool
  have hseq := inOrder.decides_scan hf
  have hkeeps := inOrder.keepsProgress_scan o
  have hturns : SameOutcome (minimize opts o input s).1 (minimize inOrder o input t).1 :=
    minimizeWith_sameOutcome hf ((opts.decides_scan hf).agree hseq) (opts.keepsProgress_scan o)
      hkeeps opts input rfl
  have hmixed : ∀ schedule, (schedule.Legal fun c a => a = f c) →
      SameOutcome (byPool schedule s).1 (minimize inOrder o input t).1 := fun schedule legal =>
    minimizeWith_sameOutcome hf ((Pool.decides_scanBy hf schedule legal).agree hseq)
      (Pool.keepsProgress_scanBy o schedule) hkeeps opts input rfl
  refine ⟨⟨hturns, hmixed⟩, fun build hbuilt => ⟨hturns.pooled hbuilt rfl, ?_⟩⟩
  exact fun schedule legal => (hmixed schedule legal).pooled hbuilt rfl

/-- Four workers that confirm failures find what a search in order finds, also if they have to be
    found first, and there are eight. -/
theorem pool_agrees_failsOn :
    let four : Options := ⟨4, true, true⟩
    let eight : PoolBuilder := fun jobs => if jobs ≤ 8 then .ok () else .error "no threads"
    let byPool (schedule : Pool.Schedule Unit true) (s : Session Unit) :=
      minimizeWith (Pool.scanBy (Oracle.ofFunction (failsOn [99, 100])) schedule) four
        (Oracle.ofFunction (failsOn [99, 100])) [97, 99, 98, 100] s
    ∃ schedule, (schedule.Legal fun c a => a = failsOn [99, 100] c) ∧
      four.buildPool eight = .ok () ∧
      (∃ r, (byPool schedule (Session.start ())).1 = .ok r ∧
        r.minimized = [99, 100] ∧ r.complementReductions = 2 ∧ r.granularityIncreases = 1) ∧
      ∃ r, (four.pooled eight (byPool schedule) (Session.start ())).1 = .ok r ∧
        r.minimized = [99, 100] ∧ r.complementReductions = 2 ∧ r.granularityIncreases = 1 := by
  intro four eight byPool
  obtain ⟨schedule, legal⟩ := Pool.exists_legal Unit true (failsOn [99, 100])
  obtain ⟨⟨_, hmixed⟩, hbuilt⟩ := pool_agrees _ _ (Oracle.answersBy_ofFunction (failsOn [99, 100]))
    four [97, 99, 98, 100] (Session.start ()) (Session.start ())
  have hseq : (minimize ⟨1, true, true⟩ (Oracle.ofFunction (failsOn [99, 100])) [97, 99, 98, 100]
      (Session.start ())).1 = .ok ⟨[99, 100], 4, 2, 15, 0, 2, 0, 1, 0⟩ := by
    cbv
  have hpooled : (Options.pooled ⟨1, true, true⟩ eight (minimize ⟨1, true, true⟩
      (Oracle.ofFunction (failsOn [99, 100])) [97, 99, 98, 100]) (Session.start ())).1 =
      .ok ⟨[99, 100], 4, 2, 15, 0, 2, 0, 1, 0⟩ := congrArg (Except.mapError PoolOr.other) hseq
  have h := hmixed schedule legal
  have h' := (hbuilt eight rfl).2 schedule legal
  rw [hseq] at h
  rw [hpooled] at h'
  obtain ⟨r, hr, hsame⟩ := h.exists_ok
  obtain ⟨r', hr', hsame'⟩ := h'.exists_ok
  exact ⟨schedule, legal, rfl,
    ⟨r, hr, hsame.minimized, hsame.complementReductions, hsame.granularityIncreases⟩,
    r', hr', hsame'.minimized, hsame'.complementReductions, hsame'.granularityIncreases⟩

end DeltaDebug
