import DeltaDebug.Proofs.Progress
import DeltaDebug.Proofs.SublistMinimality
import Mathlib.Algebra.Group.Nat.Defs

/-
  Minimizing twice. A search starts with halves, but it may come to its result by a finer split: a
  complement is split into one part less than the candidate was. A second search splits that result
  into halves, quarters and so on, and may try parts of it that the first one did not. If adding
  bytes can cure a failure, such a part may fail (`minimize_again_shrinks`).

  A search keeps its candidate exactly if no part of the splits that it goes through fails
  (`descend_keeps_iff`). For a result that is all that a second search depends on, and it is true
  whenever the first search has split the result into halves itself, nothing smaller fails, or the
  result has at most three bytes (`minimize_again`). `Halving` tells from how the first search came
  to its result that it has split it into halves.
-/

namespace DeltaDebug

variable {σ : Type} {f : Candidate → Answer}

/-! ## Splits of which no part fails -/

/-- No complement and no chunk of the split into `n` parts fails. -/
def Settled (f : Candidate → Answer) (c : Candidate) (n : Nat) : Prop :=
  ∀ i, i < n → f (Partition.complement c i n) ≠ .ok (some .fails) ∧
    f (Partition.chunk c i n) ≠ .ok (some .fails)

theorem OneMinimal.settled {c : Candidate} (h : OneMinimal f c) (hlen : 2 ≤ c.length) :
    Settled f c c.length := by
  intro i hi
  rw [Partition.complement_finest c i hi, Partition.chunk_finest c i hi]
  exact ⟨h.deletion i hi, h.single hlen _ (List.getElem_mem hi)⟩

theorem SublistMinimal.settled {c : Candidate} (h : SublistMinimal f c) {n : Nat} (hn : 1 < n)
    (hle : n ≤ c.length) : Settled f c n := by
  intro i hi
  refine ⟨h _ (Partition.complement_sublist c i n) fun he => ?_,
    h _ (Partition.chunk_sublist c i n) fun he => ?_⟩
  · have hlt := Partition.length_complement_lt hle hi
    rw [he] at hlt
    exact Nat.lt_irrefl _ hlt
  · have hlt := Partition.length_chunk_lt hle hi hn
    rw [he] at hlt
    exact Nat.lt_irrefl _ hlt

/-- Halves of three bytes are single bytes or lack a single byte. -/
theorem OneMinimal.settled_halves {c : Candidate} (h : OneMinimal f c) (hlen : c.length = 3) :
    Settled f c 2 := by
  obtain ⟨a, b, d, rfl⟩ : ∃ a b d, c = [a, b, d] := by
    match c, hlen with
    | [a, b, d], _ => exact ⟨a, b, d, rfl⟩
  have hpair : f [a, b] ≠ .ok (some .fails) := h.deletion 2 (by simp)
  have hlast : f [d] ≠ .ok (some .fails) := h.single (by simp) d (by simp)
  intro i hi
  have hcut : Partition.complement [a, b, d] 0 2 = [d] ∧ Partition.chunk [a, b, d] 0 2 = [a, b] ∧
      Partition.complement [a, b, d] 1 2 = [a, b] ∧ Partition.chunk [a, b, d] 1 2 = [d] := by
    simp [Partition.complement, Chunk.delete, Chunk.stop, Partition.chunk, Chunk.select,
      Chunk.balanced]
  obtain ⟨hcomplement, hchunk, hcomplement', hchunk'⟩ := hcut
  rcases (show i = 0 ∨ i = 1 by omega) with rfl | rfl
  · rw [hcomplement, hchunk]
    exact ⟨hlast, hpair⟩
  · rw [hcomplement', hchunk']
    exact ⟨hpair, hlast⟩

section Step

variable {scan : Scan σ} (hd : scan.Decides f) {st : State} {s s' : Session σ}

include hd

/-- A round without a reduction found no part that fails. -/
theorem settled_of_step {r : Step} (hn : 1 < st.parts) (h : step scan st s = (.ok r, s'))
    (hr : r.reduces = false) : Settled f st.candidate st.parts ∧ r = st.exhausted := by
  obtain ⟨hnil, _, _⟩ | ⟨i, _, rfl⟩ | ⟨i, _, _, _, _, rfl⟩ | ⟨_, s1, hc, hs, rfl⟩ :=
    step_ok_cases h
  · have hle := st.parts_le
    rw [hnil] at hle
    exact absurd (Nat.lt_of_lt_of_le hn hle) (by simp)
  · cases hr
  · cases hr
  · rw [if_pos hn] at hs
    refine ⟨fun i hi => ⟨?_, ?_⟩, rfl⟩
    · exact hd.of_none hc _ (List.mem_map.mpr ⟨⟨i, hi⟩, List.mem_finRange _, rfl⟩)
    · exact hd.of_none hs _ (List.mem_map.mpr ⟨⟨i, hi⟩, List.mem_finRange _, rfl⟩)

/-- If no part fails, a round makes no reduction. -/
theorem step_of_settled {r : Step} (hs : Settled f st.candidate st.parts)
    (h : step scan st s = (.ok r, s')) : r.reduces = false := by
  obtain ⟨_, rfl, _⟩ | ⟨i, hc, _⟩ | ⟨i, _, _, _, hs', _⟩ | ⟨_, _, _, _, rfl⟩ := step_ok_cases h
  · rfl
  · exact absurd (hd.of_found hc) (hs i i.isLt).1
  · exact absurd (hd.of_found hs') (hs i i.isLt).2
  · rcases st.exhausted_cases with ⟨_, he⟩ | ⟨_, he⟩ <;> rw [he] <;> rfl

end Step

/-! ## Searches that keep their candidate -/

/-- The parts of the next split, after doubling `k` times, are those of this one after `k + 1`. -/
theorem min_doubled (n len k : Nat) :
    min (min (2 * n) len * 2 ^ k) len = min (n * 2 ^ (k + 1)) len := by
  have hpow : n * 2 ^ (k + 1) = 2 * n * 2 ^ k := by
    rw [Nat.pow_succ, Nat.mul_comm (2 ^ k), ← Nat.mul_assoc, Nat.mul_comm n]
  have hlen : len ≤ len * 2 ^ k := Nat.le_mul_of_pos_right _ (Nat.two_pow_pos k)
  rw [hpow]
  rcases Nat.le_total (2 * n) len with h | h
  · rw [Nat.min_eq_left h]
  · have hle : len * 2 ^ k ≤ 2 * n * 2 ^ k := Nat.mul_le_mul_right _ h
    rw [Nat.min_eq_right h, Nat.min_eq_right hlen, Nat.min_eq_right (Nat.le_trans hlen hle)]

theorem step_reduces_lt {scan : Scan σ} {st : State} {s s' : Session σ} {r : Step}
    (h : step scan st s = (.ok r, s')) (hr : r.reduces = true) :
    (st.after r).candidate.length < st.candidate.length := by
  cases r with
  | reduced phase i next => exact (step_reduced h).1
  | refined g => cases hr
  | done => cases hr

/-- A search keeps its candidate exactly if no part of the splits that it comes to by refining
    fails. -/
theorem descend_keeps_iff {scan : Scan σ} (hd : scan.Decides f) {st st' : State}
    (hg : 0 < st.granularity) {s s' : Session σ} (htwo : 2 ≤ st.granularity)
    (hlen : 2 ≤ st.candidate.length) (h : descend scan st hg s = (.ok st', s')) :
    st'.candidate = st.candidate ↔
      ∀ k, Settled f st.candidate (min (st.granularity * 2 ^ k) st.candidate.length) := by
  induction st, hg, s using descend_induction scan with
  | error st hg s e s1 hstep =>
    rw [descend_error hstep] at h
    cases h
  | done st hg s s1 hstep =>
    rw [descend_done hstep] at h
    cases h
    refine ⟨fun _ k => ?_, fun _ => rfl⟩
    obtain ⟨hsettled, hdone⟩ := settled_of_step hd (State.one_lt_parts htwo hlen) hstep rfl
    have hparts := State.exhausted_done hdone.symm
    have hlevel : min (st'.granularity * 2 ^ k) st'.candidate.length = st'.parts := by
      have hle : st'.granularity ≤ st'.granularity * 2 ^ k :=
        Nat.le_mul_of_pos_right _ (Nat.two_pow_pos k)
      unfold State.parts at hparts ⊢
      omega
    rw [hlevel]
    exact hsettled
  | next st hg s r s1 hstep hr ih =>
    rw [descend_next hstep hr] at h
    have hzero : min (st.granularity * 2 ^ 0) st.candidate.length = st.parts := by
      rw [Nat.pow_zero, Nat.mul_one]
      rfl
    cases hred : r.reduces with
    | true =>
      refine iff_of_false (fun heq => ?_) fun hall => ?_
      · have hlt := step_reduces_lt hstep hred
        have hle := (descend_sublist scan _ _ h).length_le
        rw [heq] at hle
        omega
      · have hsettled := hall 0
        rw [hzero] at hsettled
        rw [step_of_settled hd hsettled hstep] at hred
        cases hred
    | false =>
      obtain ⟨hsettled, rfl⟩ := settled_of_step hd (State.one_lt_parts htwo hlen) hstep hred
      rcases st.exhausted_cases with ⟨hlt, he⟩ | ⟨_, he⟩
      · have hg' : st.parts = st.granularity := by
          unfold State.parts at hlt ⊢
          omega
        simp only [he, State.after, hg'] at ih h
        rw [ih (by omega) hlen h]
        simp only [min_doubled]
        refine ⟨fun hall k => ?_, fun hall k => hall (k + 1)⟩
        cases k with
        | zero =>
          rw [hzero]
          exact hsettled
        | succ k => exact hall k
      · exact absurd he hr

/-- A search goes on from each of its rounds as a search that starts there. -/
theorem descend_of_mem_rounds (scan : Scan σ) {st : State} (hg : 0 < st.granularity)
    (s : Session σ) : ∀ round ∈ rounds scan st hg s,
      ∃ hg', descend scan round.state hg' round.before = descend scan st hg s := by
  induction st, hg, s using descend_induction scan with
  | error st hg s e s' h =>
    intro round hround
    rw [rounds_error h] at hround
    obtain rfl := List.mem_singleton.mp hround
    exact ⟨hg, rfl⟩
  | done st hg s s' h =>
    intro round hround
    rw [rounds_done h] at hround
    obtain rfl := List.mem_singleton.mp hround
    exact ⟨hg, rfl⟩
  | next st hg s r s' h hr ih =>
    intro round hround
    rw [rounds_next h hr] at hround
    rcases List.mem_cons.mp hround with rfl | hround
    · exact ⟨hg, rfl⟩
    · rw [descend_next h hr]
      exact ih round hround

/-! ## Minimizations that keep their input -/

/-- No part of the splits into halves, quarters and so on fails, down to single bytes. -/
def SettledThroughout (f : Candidate → Answer) (c : Candidate) : Prop :=
  ∀ k, Settled f c (min (2 ^ (k + 1)) c.length)

/-- For a minimal candidate, the splits that are coarser than single bytes are all that matters. -/
theorem OneMinimal.settledThroughout_iff {c : Candidate} (h : OneMinimal f c)
    (hlen : 2 ≤ c.length) : SettledThroughout f c ↔
      ∀ k, 2 ^ (k + 1) < c.length → Settled f c (2 ^ (k + 1)) := by
  refine ⟨fun hall k hk => ?_, fun hall k => ?_⟩
  · have hsettled := hall k
    rw [Nat.min_eq_left (Nat.le_of_lt hk)] at hsettled
    exact hsettled
  · rcases Nat.lt_or_ge (2 ^ (k + 1)) c.length with hk | hk
    · rw [Nat.min_eq_left (Nat.le_of_lt hk)]
      exact hall k hk
    · rw [Nat.min_eq_right hk]
      exact h.settled hlen

theorem descend_initial_keeps_iff {scan : Scan σ} (hd : scan.Decides f) {c : Candidate}
    {st' : State} {s s' : Session σ} {hg : 0 < (State.initial c).granularity}
    (hlen : 2 ≤ c.length) (h : descend scan (.initial c) hg s = (.ok st', s')) :
    st'.candidate = c ↔ SettledThroughout f c := by
  have hiff := descend_keeps_iff hd hg (Nat.le_refl 2) hlen h
  unfold SettledThroughout
  simp only [Nat.pow_succ']
  exact hiff

/-- The result is the input, and no reduction was made. -/
structure Result.Unchanged (r : Result) (input : Candidate) : Prop where
  minimized : r.minimized = input
  complementReductions : r.complementReductions = 0
  subsetReductions : r.subsetReductions = 0

section Minimize

variable {scan : Scan σ} {opts : Options} {o : Oracle σ} {input : Candidate} {s s' : Session σ}
  {r : Result}

theorem unchanged_iff (hp : scan.KeepsProgress) (htally : s.tally = {})
    (h : minimizeWith scan opts o input s = (.ok r, s')) :
    r.Unchanged input ↔ r.minimized = input := by
  refine ⟨Result.Unchanged.minimized, fun heq => ?_⟩
  have hreductions := reductions_of_minimizeWith hp htally h
  obtain ⟨_, _, hsize, horiginal⟩ := minimized_of_minimizeWith h
  rw [hsize, horiginal, heq, Nat.sub_self] at hreductions
  exact ⟨heq, by omega, by omega⟩

/-- An input is kept exactly if it is too short to be split, or no part of its splits fails. -/
theorem minimized_eq_input_iff (hd : scan.Decides f)
    (h : minimizeWith scan opts o input s = (.ok r, s')) :
    r.minimized = input ↔ (2 ≤ input.length → SettledThroughout f input) := by
  obtain ⟨s1, s2, m, _, hsearch, rfl, _⟩ := minimizeWith_ok h
  rcases search_ok hsearch with ⟨hshort, rfl, _⟩ | ⟨hlen, ⟨st, hdescend, rfl⟩, _⟩
  · exact iff_of_true rfl fun hlen => by omega
  · refine (descend_initial_keeps_iff hd hlen hdescend).trans ⟨fun hs _ => hs, fun hs => hs hlen⟩

/-- If the search itself has split its result into halves, it has tried all that another search of
    the result tries. -/
theorem settledThroughout_of_round (hd : scan.Decides f)
    (h : minimizeWith scan opts o input s = (.ok r, s')) (hlen : 2 ≤ r.minimized.length)
    {round : Round σ} (hround : round ∈ minimizeRoundsWith scan opts o input s)
    (hstate : round.state = .initial r.minimized) : SettledThroughout f r.minimized := by
  obtain ⟨s1, s2, m, _, hsearch, rfl, hrounds⟩ := minimizeWith_ok h
  rw [hrounds] at hround
  rcases search_ok hsearch with ⟨_, _, hnone⟩ | ⟨_, ⟨st, hdescend, rfl⟩, hlist⟩
  · rw [hnone] at hround
    cases hround
  · rw [hlist] at hround
    obtain ⟨hg, hrest⟩ := descend_of_mem_rounds scan Nat.two_pos s1 round hround
    obtain ⟨state, before, outcome, after⟩ := round
    obtain rfl := hstate
    exact (descend_initial_keeps_iff hd hlen (hrest.trans hdescend)).mp rfl

/-- A result that can still be split is minimal, as its input could be split. -/
theorem oneMinimal_of_two_le (hd : scan.Decides f)
    (h : minimizeWith scan opts o input s = (.ok r, s')) (hlen : 2 ≤ r.minimized.length) :
    OneMinimal f r.minimized := by
  have hle := (minimized_of_minimizeWith h).1.length_le
  exact oneMinimal_of_minimizeWith hd (Nat.le_trans hlen hle) h

/-- When a result is kept by every further search: it is short, adding bytes never cures a failure,
    nothing smaller fails, or the search that found it has split it into halves. -/
inductive Stays (f : Candidate → Answer) (c : Candidate) (all : List (Round σ)) : Prop
  | short (h : c.length ≤ 3)
  | upwardClosed (h : UpwardClosed f)
  | minimal (h : SublistMinimal f c)
  | halved (h : ∃ round ∈ all, round.state = .initial c)

/-- The search came to the candidate in a way after which it splits it into halves: it started with
    it, kept it as a chunk, or deleted one of at most three chunks to get it. -/
inductive Halving (input c : Candidate) (all : List (Round σ)) : Prop
  | start (hlen : 1 < input.length) (h : c = input)
  | chunk {round : Round σ} {i : Nat} {next : State} (hround : round ∈ all)
      (houtcome : round.outcome = .ok (.reduced .subset i next)) (h : next.candidate = c)
  | complement {round : Round σ} {i : Nat} {next : State} (hround : round ∈ all)
      (houtcome : round.outcome = .ok (.reduced .complement i next)) (h : next.candidate = c)
      (hparts : round.state.parts ≤ 3)

/-- A chunk that is kept, and what a deletion leaves of at most three chunks, is split into halves
    next. -/
theorem step_reduced_initial {st next : State} {phase : Phase} {i : Nat}
    (h : step scan st s = (.ok (.reduced phase i next), s'))
    (hphase : phase = .subset ∨ st.parts ≤ 3) : next = .initial next.candidate := by
  obtain ⟨_, hr, _⟩ | ⟨i, _, hr⟩ | ⟨i, _, _, _, _, hr⟩ | ⟨_, _, _, _, hr⟩ := step_ok_cases h
  · cases hr
  · cases hr
    have hparts : st.parts ≤ 3 := hphase.resolve_left (by simp)
    have htwo : max (st.parts - 1) 2 = 2 := by omega
    rw [htwo]
    rfl
  · cases hr
    rfl
  · exact absurd hr.symm State.exhausted_ne_reduced

theorem Trail.halved {c : Candidate} {all : List (Round σ)}
    {x : Except OracleError State × Session σ} (htrail : Trail scan (.initial input) s all x)
    (h : Halving input c all) : ∃ round ∈ all, round.state = .initial c := by
  -- The round after the one that adopts the candidate is the one that is looked for.
  have hnext {round : Round σ} {phase : Phase} {i : Nat} {next : State} (hround : round ∈ all)
      (houtcome : round.outcome = .ok (.reduced phase i next))
      (hphase : phase = .subset ∨ round.state.parts ≤ 3) :
      ∃ later ∈ all, later.state = .initial next.candidate := by
    have hstep := htrail.step_eq hround
    rw [houtcome] at hstep
    rw [← step_reduced_initial hstep hphase]
    exact htrail.exists_after hround houtcome (by simp)
  cases h with
  | start _ h => exact h ▸ htrail.exists_first
  | chunk hround houtcome h => exact h ▸ hnext hround houtcome (Or.inl rfl)
  | complement hround houtcome h hparts => exact h ▸ hnext hround houtcome (Or.inr hparts)

/-- A minimization with a result has made a round on the halves of what it came to in such a way. -/
theorem Halving.exists_round {c : Candidate} (h : minimizeWith scan opts o input s = (.ok r, s'))
    (hhalving : Halving input c (minimizeRoundsWith scan opts o input s)) :
    ∃ round ∈ minimizeRoundsWith scan opts o input s, round.state = .initial c := by
  have hby := minimizeWith_minimizesBy scan opts o input s
  rw [h] at hby
  generalize minimizeRoundsWith scan opts o input s = all at hby hhalving ⊢
  cases hby with
  | short _ hshort =>
    cases hhalving with
    | start hlen _ => exact absurd hlen (Nat.not_lt.mpr hshort)
    | chunk hround => cases hround
    | complement hround => cases hround
  | found _ _ htrail => exact htrail.halved hhalving

theorem Stays.settled (hd : scan.Decides f) (h : minimizeWith scan opts o input s = (.ok r, s'))
    (hstays : Stays f r.minimized (minimizeRoundsWith scan opts o input s)) {k : Nat}
    (hk : 2 ^ (k + 1) < r.minimized.length) : Settled f r.minimized (2 ^ (k + 1)) := by
  have hpow : 2 ≤ 2 ^ (k + 1) := Nat.le_self_pow (Nat.succ_ne_zero k) 2
  have hone := oneMinimal_of_two_le hd h (by omega)
  cases hstays with
  | short hshort =>
    have htwo : 2 ^ (k + 1) = 2 := by omega
    rw [htwo]
    exact hone.settled_halves (by omega)
  | upwardClosed hup => exact (hone.sublistMinimal hup).settled hpow (Nat.le_of_lt hk)
  | minimal hmin => exact hmin.settled hpow (Nat.le_of_lt hk)
  | halved hround =>
    obtain ⟨round, hmem, hstate⟩ := hround
    have hall := settledThroughout_of_round hd h (by omega) hmem hstate
    exact (hone.settledThroughout_iff (by omega)).mp hall k hk

end Minimize

/-- **Minimizing twice.** Against a deterministic oracle that never errs, an input that fails has a
    result, and that has a result, which fails and is a sublist of it. The second one is the first,
    without any reduction, exactly if no complement and no chunk fails of the splits of the first
    into 2, 4, 8 and so on parts that are coarser than single bytes. So it is if the first has at
    most three bytes, if nothing smaller fails, in particular if adding bytes never cures a failure,
    and if the first search has split its result into halves itself. It has done so if the result is
    the input, a chunk that was kept, or what a deletion left of at most three chunks. -/
theorem minimize_again (o : Oracle σ) (f : Candidate → Answer) (ho : o.AnswersBy f)
    (hf : NeverErrs f) (opts : Options) (input : Candidate)
    (hinput : f input = .ok (some .fails)) (s t : Session σ) :
    ∃ r s' r' t', minimize opts o input s = (.ok r, s') ∧
      minimize opts o r.minimized t = (.ok r', t') ∧
      r'.minimized.Sublist r.minimized ∧ f r'.minimized = .ok (some .fails) ∧
      (r'.Unchanged r.minimized ↔
        ∀ k, 2 ^ (k + 1) < r.minimized.length → Settled f r.minimized (2 ^ (k + 1))) ∧
      (Halving input r.minimized (minimizeRounds opts o input s) →
        ∃ round ∈ minimizeRounds opts o input s, round.state = .initial r.minimized) ∧
      (Stays f r.minimized (minimizeRounds opts o input s) → r'.Unchanged r.minimized) := by
  have hd := opts.decides_scan ho
  obtain ⟨r, s', h⟩ := minimizeWith_exists_ok hd hf ho (fun _ => hinput) { s with tally := {} }
  have hfails := fails_of_minimizeWith hd hinput h
  obtain ⟨r', t', h'⟩ := minimizeWith_exists_ok hd hf ho (fun _ => hfails) { t with tally := {} }
  have hiff : r'.Unchanged r.minimized ↔
      ∀ k, 2 ^ (k + 1) < r.minimized.length → Settled f r.minimized (2 ^ (k + 1)) := by
    rw [unchanged_iff (opts.keepsProgress_scan o) rfl h', minimized_eq_input_iff hd h']
    refine ⟨fun hall k hk => ?_, fun hall hlen => ?_⟩
    · have hlen : 2 ≤ r.minimized.length :=
        Nat.le_trans (Nat.le_self_pow (Nat.succ_ne_zero k) 2) (Nat.le_of_lt hk)
      exact ((oneMinimal_of_two_le hd h hlen).settledThroughout_iff hlen).mp (hall hlen) k hk
    · exact ((oneMinimal_of_two_le hd h hlen).settledThroughout_iff hlen).mpr hall
  exact ⟨r, s', r', t', h, h', (minimized_of_minimizeWith h').1,
    fails_of_minimizeWith hd hfails h', hiff, Halving.exists_round h,
    fun hstays => hiff.mpr fun _ hk => Stays.settled hd h hstays hk⟩

/-- Four of five bytes are left, and are left again. -/
theorem minimize_again_failsOn :
    ∃ r s' r' t',
      minimize {} (Oracle.ofFunction (failsOn [98, 99, 100, 101])) [98, 99, 97, 100, 101]
        (Session.start ()) = (.ok r, s') ∧ r.minimized = [98, 99, 100, 101] ∧
      minimize {} (Oracle.ofFunction (failsOn [98, 99, 100, 101])) r.minimized
        (Session.start ()) = (.ok r', t') ∧ r'.Unchanged r.minimized := by
  obtain ⟨r, s', r', t', h, h', _, _, _, _, hstays⟩ := minimize_again _ _
    (Oracle.answersBy_ofFunction (failsOn [98, 99, 100, 101])) (neverErrs_failsOn _) {}
    [98, 99, 97, 100, 101] (by cbv) (Session.start ()) (Session.start ())
  have hseq : (minimize {} (Oracle.ofFunction (failsOn [98, 99, 100, 101]))
      [98, 99, 97, 100, 101] (Session.start ())).1 =
      .ok ⟨[98, 99, 100, 101], 5, 4, 20, 0, 1, 0, 2, 0⟩ := by
    cbv
  rw [h] at hseq
  obtain rfl := Except.ok.inj hseq
  exact ⟨_, s', r', t', h, rfl, h', hstays (.upwardClosed (upwardClosed_failsOn _))⟩

/-- A second search that goes on: of `abcde` the first deletes `a`, from single bytes on, and never
    tries the halves of `bcde`; the second does, and one of them fails. -/
theorem minimize_again_shrinks :
    failsAt [[97, 98, 99, 100, 101], [98, 99, 100, 101], [98, 99]] [97, 98, 99, 100, 101] =
      .ok (some .fails) ∧
    (minimize {} (Oracle.ofFunction
        (failsAt [[97, 98, 99, 100, 101], [98, 99, 100, 101], [98, 99]]))
      [97, 98, 99, 100, 101] (Session.start ())).1 =
      .ok ⟨[98, 99, 100, 101], 5, 4, 21, 0, 1, 0, 2, 0⟩ ∧
    (minimize {} (Oracle.ofFunction
        (failsAt [[97, 98, 99, 100, 101], [98, 99, 100, 101], [98, 99]]))
      [98, 99, 100, 101] (Session.start ())).1 = .ok ⟨[98, 99], 4, 2, 6, 0, 1, 0, 0, 0⟩ := by
  refine ⟨by cbv, by cbv, by cbv⟩

end DeltaDebug
