import DeltaDebug.Proofs.Pool.Account
import DeltaDebug.Proofs.Pool.Agreement
import DeltaDebug.Proofs.Work

/-
  How many probes a pool makes does not depend on how its workers mix their moves. If failures are
  not confirmed, every index of a scan adds one to what is spent, whatever becomes of it: a call
  that comes to a verdict, a probe that is skipped or abandoned, or an error that is ignored. So a
  scan spends as much as it has candidates (`Scan.Thorough`), and a round spends its parts once if a
  complement fails and twice otherwise (`spent_step`). With a deterministic oracle the rounds are
  those of a search in order (`spent_descend_rounds`), which know nothing of the schedule.

  Nothing but that last step asks the oracle to be deterministic.
-/

namespace DeltaDebug

variable {σ τ : Type}

/-! ## Probes and scans -/

/-- A probe without a second call counts once, as a call or as one that came to nothing. -/
theorem Inquiry.charge_eq_one {q : Inquiry false} {p : Probe} (h : q.finding = .ok p) :
    p.charge = 1 := by
  obtain ⟨c, first, second, hs⟩ := q
  cases second with
  | none =>
    rcases first with e | _ | v
    · cases h
    · cases h
      rfl
    · cases h
      rfl
  | some a =>
    obtain ⟨hconfirm, _⟩ := hs.mp rfl
    cases hconfirm

theorem spent_probe {o : Oracle σ} {c : Candidate} {s s' : Session σ} {p : Probe}
    (h : probe o false c s = (.ok p, s')) : (s'.record p).tally.spent = s.tally.spent + 1 := by
  obtain ⟨q, _, hq⟩ := probe_inquiry o false c s
  rw [h] at hq
  have htally : s'.tally = s.tally := hq.tally
  calc (s'.record p).tally.spent = s'.tally.spent + p.charge := s'.tally.spent_record p
    _ = s.tally.spent + 1 := by rw [htally, q.charge_eq_one hq.finding.symm]

/-- A scan without an error spends one on each of its candidates. -/
def Scan.Thorough (scan : Scan σ) : Prop :=
  ∀ {count : Nat} {build : Fin count → Candidate} {s s' : Session σ} {x : Option (Fin count)},
    scan count build s = (.ok x, s') → s'.tally.spent = s.tally.spent + count

/-- A scan in order does so if it cannot stop early. -/
theorem spent_scanInOrder {o : Oracle σ} {count : Nat} (hcount : count ≤ 1)
    {build : Fin count → Candidate} {s s' : Session σ} {x : Option (Fin count)}
    (h : scanInOrder o false count build s = (.ok x, s')) :
    s'.tally.spent = s.tally.spent + count := by
  rcases Nat.le_one_iff_eq_zero_or_eq_one.mp hcount with rfl | rfl
  · cases h
    rfl
  · change firstFailing o false build [0] s = (.ok x, s') at h
    rw [firstFailing] at h
    rcases hp : probe o false (build 0) s with ⟨_ | p, s1⟩
    · rw [hp] at h
      cases h
    · rw [hp] at h
      dsimp only at h
      split at h
      · cases h
        exact spent_probe hp
      · cases h
        exact spent_probe hp

namespace Pool

variable {count : Nat}

/-- Going through the findings counts each of them once, ignored errors included. -/
theorem spent_collect_eq {found : Option (Fin count)} {rest : List (Finding count)}
    {s s' : Session σ} {x : Option (Fin count)} (h : collect found rest s = (.ok x, s'))
    (hone : ∀ y ∈ rest, ∀ p, y.2 = .ok p → p.charge = 1) :
    s'.tally.spent = s.tally.spent + rest.length := by
  induction rest generalizing found s with
  | nil =>
    cases h
    rfl
  | cons y rest ih =>
    obtain ⟨i, r⟩ := y
    have hrest : ∀ y ∈ rest, ∀ p, y.2 = .ok p → p.charge = 1 :=
      fun y hy => hone y (List.mem_cons_of_mem _ hy)
    rw [List.length_cons]
    cases r with
    | ok p =>
      have hspent : (s.record p).tally.spent = s.tally.spent + p.charge := s.tally.spent_record p
      rw [hone _ List.mem_cons_self p rfl] at hspent
      rw [ih h hrest, hspent]
      omega
    | error e =>
      rw [collect] at h
      split at h
      · rw [ih h hrest]
        change s.tally.invocations + (s.tally.cancelled + 1) + _ =
          s.tally.invocations + s.tally.cancelled + _
        omega
      · cases h

theorem Play.charge_eq_one (play : Play false count) :
    ∀ x ∈ play.found, ∀ p, x.2 = .ok p → p.charge = 1 := by
  intro x hx p hp
  have hdone := play.answered hx
  rw [hp] at hdone
  rcases hdone with ⟨_, hskipped⟩ | ⟨q, _, hq⟩
  · cases hskipped
    rfl
  · exact q.charge_eq_one hq

theorem thorough_scanBy (o : Oracle σ) (schedule : Schedule σ false) :
    (scanBy o schedule).Thorough := by
  intro count build s s' x h
  unfold scanBy at h
  split at h
  case isTrue hcount => exact spent_scanInOrder hcount h
  case isFalse =>
    rw [spent_collect_eq h (schedule count build s).charge_eq_one,
      (schedule count build s).affordable.1]

theorem charge_findings (o : Oracle σ) (build : Fin count → Candidate)
    (lowest : Option (Fin count)) (is : List (Fin count)) (s : Session σ) :
    ∀ x ∈ (findings o false build lowest is s).1, ∀ p, x.2 = .ok p → p.charge = 1 := by
  induction is generalizing lowest s with
  | nil => exact nofun
  | cons i is ih =>
    simp only [findings]
    split
    · refine List.forall_mem_cons.mpr ⟨fun p hp => ?_, ih lowest s⟩
      cases hp
      rfl
    · obtain ⟨q, _, hq⟩ := probe_inquiry o false (build i) s
      refine List.forall_mem_cons.mpr ⟨fun p hp => ?_, ih _ _⟩
      exact q.charge_eq_one (hq.finding.symm.trans hp)

/-- So does the pool whose workers take turns. -/
theorem thorough_scan (o : Oracle σ) : (Pool.scan o false).Thorough := by
  intro count build s s' x h
  unfold Pool.scan at h
  split at h
  case isTrue hcount => exact spent_scanInOrder hcount h
  case isFalse =>
    rw [spent_collect_eq h (charge_findings o build none _ s), tally_findings,
      (affordable_findings o false build none _ s).1, List.length_finRange]

end Pool

/-! ## Rounds -/

/-- What a pool spends on a round: its parts, once if a complement failed and twice otherwise. A
    single byte has one complement, and no chunk that is worth a try. -/
def Round.poolProbes (round : Round σ) : Nat :=
  if round.state.candidate.length ≤ 1 then round.state.candidate.length
  else match round.outcome with
    | .ok (.reduced .complement _ _) => round.state.parts
    | _ => 2 * round.state.parts

/-- What a round spends follows from what it comes to. -/
theorem spent_step {scan : Scan σ} (ht : scan.Thorough) {st : State} {s s' : Session σ} {r : Step}
    (htwo : 2 ≤ st.granularity) (h : step scan st s = (.ok r, s')) (t t' : Session τ) :
    s'.tally.spent = s.tally.spent + Round.poolProbes ⟨st, t, .ok r, t'⟩ := by
  have hfirst : ∀ {x s1}, scan st.parts st.complements (s.beginRound st) = (.ok x, s1) →
      s1.tally.spent = s.tally.spent + st.parts := by
    intro x s1 hc
    have hspent := ht hc
    exact hspent
  have hshort : st.candidate.length ≤ 1 → st.parts = st.candidate.length := by
    intro hlen
    unfold State.parts
    omega
  have hparts := st.parts_le
  unfold Round.poolProbes
  dsimp only
  obtain ⟨hempty, rfl, rfl⟩ | ⟨i, hc, rfl⟩ | ⟨i, s1, hc, hn, hs, rfl⟩ | ⟨_, s1, hc, hs, rfl⟩ :=
    step_ok_cases h
  · rw [hempty]
    rfl
  · rw [hfirst hc]
    split
    case isTrue hlen => rw [hshort hlen]
    case isFalse => rfl
  · rw [if_neg (by omega), ht hs, hfirst hc]
    dsimp only
    omega
  · split at hs
    case isTrue hn =>
      rw [if_neg (by omega), ht hs, hfirst hc]
      rcases st.exhausted_cases with ⟨_, he⟩ | ⟨_, he⟩
      · rw [he]
        dsimp only
        omega
      · rw [he]
        dsimp only
        omega
    case isFalse hn =>
      have hlen : st.candidate.length ≤ 1 := by
        by_contra hlong
        exact hn (State.one_lt_parts htwo (by omega))
      rw [if_pos hlen, hs, hfirst hc, hshort hlen]

/-! ## Searches -/

/-- What a search spends, round by round of any search that agrees with it. -/
theorem spent_descend_rounds {scan : Scan σ} {scan' : Scan τ} (hagree : scan.Agree scan')
    (ht : scan.Thorough) {st st' : State} (hg : 0 < st.granularity) (htwo : 2 ≤ st.granularity)
    {s s' : Session σ} (t : Session τ) (h : descend scan st hg s = (.ok st', s')) :
    s'.tally.spent = s.tally.spent + ((rounds scan' st hg t).map Round.poolProbes).sum := by
  induction st, hg, s, t using descend_induction_agree hagree with
  | error st hg s t e s1 t1 hstep hstep' =>
    rw [descend_error hstep] at h
    cases h
  | done st hg s t s1 t1 hstep hstep' =>
    rw [descend_done hstep] at h
    cases h
    rw [rounds_done hstep', List.map_singleton, List.sum_singleton]
    exact spent_step ht htwo hstep t t1
  | next st hg s t r s1 t1 hstep hstep' hr ih =>
    rw [descend_next hstep hr] at h
    rw [rounds_next hstep' hr, List.map_cons, List.sum_cons,
      ih (step_granularity_two hstep htwo) h, Session.spent_proceed,
      spent_step ht htwo hstep t t1, Nat.add_assoc]

/-- A search splits everything longer than one byte. -/
theorem two_le_parts_of_mem_rounds {scan : Scan σ} {input : Candidate} {s : Session σ}
    {round : Round σ} (hround : round ∈ searchRounds scan input s)
    (hlen : 1 < round.state.candidate.length) : 2 ≤ round.state.parts := by
  unfold searchRounds at hround
  split at hround
  · obtain ⟨htwo, _⟩ := rounds_invariant scan Nat.two_pos s
      (P := fun st _ => 2 ≤ st.granularity)
      (fun _ _ _ _ htwo hstep _ => step_granularity_two hstep htwo) (Nat.le_refl 2) round hround
    exact State.one_lt_parts htwo hlen
  · cases hround

theorem spent_search {scan : Scan σ} {scan' : Scan τ} (hagree : scan.Agree scan')
    (ht : scan.Thorough) {input m : Candidate} {s s' : Session σ} (t : Session τ)
    (h : search scan input s = (.ok m, s')) :
    s'.tally.spent = s.tally.spent + ((searchRounds scan' input t).map Round.poolProbes).sum := by
  unfold searchRounds
  rcases search_ok h with ⟨hshort, _, _⟩ | ⟨hlong, ⟨st, hdescend, _⟩, _⟩
  · rw [search_of_short hshort] at h
    cases h
    rw [if_neg (Nat.not_lt.mpr hshort)]
    rfl
  · rw [if_pos hlong]
    exact spent_descend_rounds hagree ht Nat.two_pos (Nat.le_refl 2) t hdescend

/-- The input is probed once, if at all. -/
theorem spent_verify {opts : Options} (hconfirm : opts.doubleCheck = false) {o : Oracle σ}
    {input : Candidate} {s s' : Session σ} (h : verify opts o input s = (.ok (), s')) :
    s'.tally.spent = s.tally.spent + if opts.verifyInput then 1 else 0 := by
  rcases verify_ok h with ⟨hv, rfl⟩ | ⟨hv, p, s1, hp, rfl⟩
  · rw [hv]
    rfl
  · rw [hconfirm] at hp
    rw [hv]
    exact spent_probe hp

/-! ## Minimizations -/

theorem spent_minimizeWith {o : Oracle σ} {f : Candidate → Answer} (hf : o.AnswersBy f)
    {scan scan' : Scan σ} (hagree : scan.Agree scan') (ht : scan.Thorough) {opts : Options}
    (hconfirm : opts.doubleCheck = false) {input : Candidate} (s t : Session σ) {s' : Session σ}
    {r : Result} (h : minimizeWith scan opts o input { s with tally := {} } = (.ok r, s')) :
    r.invocationCount + r.cancelledCount =
      ((minimizeRoundsWith scan' opts o input { t with tally := {} }).map Round.poolProbes).sum +
        if opts.verifyInput then 1 else 0 := by
  obtain ⟨s1, s2, m, hverify, hsearch, rfl, _⟩ := minimizeWith_ok h
  have hsame := (verify_alike hf opts input (s := { s with tally := {} })
    (t := { t with tally := {} }) rfl).outcome
  rcases ht1 : verify opts o input { t with tally := {} } with ⟨x, t1⟩
  rw [hverify, ht1] at hsame
  obtain rfl : .ok () = x := hsame
  have hbefore := spent_verify hconfirm hverify
  have hafter := spent_search hagree ht t1 hsearch
  unfold minimizeRoundsWith
  rw [ht1]
  dsimp only
  change s2.tally.spent = _
  rw [hafter, hbefore]
  change 0 + _ + _ = _
  omega

/-- All pools spend the same on the input: whatever their size, and however the workers mix their
    moves, a result counts `n` calls and probes that came to nothing. -/
structure Pool.Spends (o : Oracle σ) (f : Candidate → Answer) (verifyInput : Bool)
    (input : Candidate) (n : Nat) : Prop where
  turns : ∀ jobs, jobs ≠ 1 → ∀ (s : Session σ) r s',
    minimize ⟨jobs, false, verifyInput⟩ o input s = (.ok r, s') →
    r.invocationCount + r.cancelledCount = n
  scheduled : ∀ jobs (schedule : Pool.Schedule σ false), (schedule.Legal fun c a => a = f c) →
    ∀ (s : Session σ) r s', minimizeWith (Pool.scanBy o schedule) ⟨jobs, false, verifyInput⟩ o
      input { s with tally := {} } = (.ok r, s') →
    r.invocationCount + r.cancelledCount = n

/-- **The probes of a pool can be read off the rounds in order.** Against a deterministic oracle,
    and if failures are not confirmed, all pools spend the same on an input, under every legal
    schedule: for each round of a search in order its parts, twice unless a complement failed, one
    for a single byte and none for the empty candidate, and one more if the input is probed first.
    Whatever is longer than one byte has at least two parts. -/
theorem pool_probe_count (o : Oracle σ) (f : Candidate → Answer) (hf : o.AnswersBy f)
    (verifyInput : Bool) (input : Candidate) (t : Session σ) :
    Pool.Spends o f verifyInput input
      (((minimizeRounds ⟨1, false, verifyInput⟩ o input t).map Round.poolProbes).sum +
        if verifyInput then 1 else 0) ∧
    ∀ round ∈ minimizeRounds ⟨1, false, verifyInput⟩ o input t,
      1 < round.state.candidate.length → 2 ≤ round.state.parts := by
  have hseq := Options.decides_scan hf ⟨1, false, verifyInput⟩
  refine ⟨⟨fun jobs hjobs s r s' h => ?_, fun jobs schedule legal s r s' h => ?_⟩, ?_⟩
  · have hscan : Options.scan ⟨jobs, false, verifyInput⟩ o = Pool.scan o false := if_neg hjobs
    unfold minimize at h
    rw [hscan] at h
    exact spent_minimizeWith hf ((Pool.decides_scan hf false).agree hseq) (Pool.thorough_scan o)
      rfl s t h
  · exact spent_minimizeWith hf ((Pool.decides_scanBy hf schedule legal).agree hseq)
      (Pool.thorough_scanBy o schedule) rfl s t h
  · intro round hround hlen
    unfold minimizeRounds minimizeRoundsWith at hround
    split at hround
    · cases hround
    · exact two_le_parts_of_mem_rounds hround hlen

/-- Sixteen probes, whatever the workers do, where a search in order makes twelve calls. -/
theorem pool_probe_count_failsOn :
    Pool.Spends (Oracle.ofFunction (failsOn [99, 100])) (failsOn [99, 100]) true
      [97, 99, 98, 100] 16 ∧
    (∃ r s', minimize ⟨3, false, true⟩ (Oracle.ofFunction (failsOn [99, 100]))
        [97, 99, 98, 100] (Session.start ()) = (.ok r, s') ∧
      r.invocationCount + r.cancelledCount = 16) ∧
    ∃ r s', minimize ⟨1, false, true⟩ (Oracle.ofFunction (failsOn [99, 100]))
        [97, 99, 98, 100] (Session.start ()) = (.ok r, s') ∧
      r.invocationCount + r.cancelledCount = 12 := by
  have hspends := (pool_probe_count _ _ (Oracle.answersBy_ofFunction (failsOn [99, 100])) true
    [97, 99, 98, 100] (Session.start ())).1
  have hrounds : ((minimizeRounds ⟨1, false, true⟩ (Oracle.ofFunction (failsOn [99, 100]))
      [97, 99, 98, 100] (Session.start ())).map Round.poolProbes).sum = 15 := by
    cbv
  rw [hrounds] at hspends
  have hpool : (minimize ⟨3, false, true⟩ (Oracle.ofFunction (failsOn [99, 100]))
      [97, 99, 98, 100] (Session.start ())).1 = .ok ⟨[99, 100], 4, 2, 12, 0, 2, 0, 1, 4⟩ := by
    cbv
  have hseq : (minimize ⟨1, false, true⟩ (Oracle.ofFunction (failsOn [99, 100]))
      [97, 99, 98, 100] (Session.start ())).1 = .ok ⟨[99, 100], 4, 2, 12, 0, 2, 0, 1, 0⟩ := by
    cbv
  have h := Prod.fst_eq_iff.mp hpool
  exact ⟨hspends, ⟨_, _, h, hspends.turns 3 (by decide) _ _ _ h⟩,
    _, _, Prod.fst_eq_iff.mp hseq, rfl⟩

end DeltaDebug
