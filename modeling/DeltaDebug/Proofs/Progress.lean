import DeltaDebug.Proofs.Pool.Decision
import DeltaDebug.Proofs.Run
import Mathlib.Data.Nat.Log
import Mathlib.Data.Prod.Basic

/-
  Bounds on the counts of progress. The width of a split is the size of its largest chunks. It
  never grows: a complement is split into one part less than the candidate was, and that is enough
  for chunks of the old width (`width_complements_le`). A refinement halves it, and so does a chunk
  that is kept, as that is split into halves (`width_refined_le`, `width_chunks_le`).

  So a search halves at most as often as the width of its first split allows, and once more when
  it keeps a single byte (`State.halvingsLeft`). What it adopts is bounded by the bytes that go.
  Neither bound depends on what the oracle answers or on how a scan is made, as long as the scan
  leaves these counts alone.
-/

namespace DeltaDebug

variable {σ : Type}

/-! ## The width of a split -/

/-- The size of the largest chunks: the length over the number of parts, rounded up. -/
def State.width (st : State) : Nat := (st.candidate.length + st.parts - 1) / st.parts

namespace State

variable {st : State}

/-- The width is the least size of which as many pieces as there are parts cover the candidate. -/
theorem width_le_iff {w : Nat} (h : 0 < st.parts) :
    st.width ≤ w ↔ st.candidate.length ≤ st.parts * w := by
  unfold width
  rw [Nat.div_le_iff_le_mul_add_pred h]
  omega

theorem length_le_mul_width (h : 0 < st.parts) : st.candidate.length ≤ st.parts * st.width :=
  (width_le_iff h).mp (Nat.le_refl _)

theorem width_pos (h : 0 < st.parts) : 0 < st.width := by
  have hle := length_le_mul_width h
  have hparts := st.parts_le
  by_contra hw
  rw [Nat.eq_zero_of_not_pos hw] at hle
  omega

/-- A split is no wider than `w` if its granularity allows for pieces of `w` bytes. -/
theorem width_le_of_length_le {w : Nat} (hw : 0 < w)
    (h : st.candidate.length ≤ st.granularity * w) : st.width ≤ w := by
  rcases Nat.eq_zero_or_pos st.parts with hzero | hpos
  · unfold width
    rw [hzero, Nat.div_zero]
    exact Nat.zero_le _
  · rw [width_le_iff hpos]
    unfold parts
    rcases Nat.le_total st.granularity st.candidate.length with hle | hle
    · rw [Nat.min_eq_left hle]
      exact h
    · rw [Nat.min_eq_right hle]
      exact Nat.le_mul_of_pos_right _ hw

/-- No chunk is larger than the width. -/
theorem length_chunks_le (i : Fin st.parts) : (st.chunks i).length ≤ st.width := by
  have hpos : 0 < st.parts := Nat.zero_lt_of_lt i.isLt
  unfold chunks
  rw [Partition.length_chunk i.isLt]
  exact Partition.balanced_len_le i hpos (length_le_mul_width hpos)

theorem length_complements_le (i : Fin st.parts) :
    (st.complements i).length ≤ (st.parts - 1) * st.width :=
  Partition.length_complement_le i.isLt
    (length_le_mul_width (Nat.zero_lt_of_lt i.isLt))

/-- One part less for what one chunk less leaves: the chunks do not become larger. -/
theorem width_complements_le (i : Fin st.parts) :
    State.width ⟨st.complements i, max (st.parts - 1) 2⟩ ≤ st.width := by
  refine width_le_of_length_le (width_pos (Nat.zero_lt_of_lt i.isLt)) ?_
  exact Nat.le_trans (length_complements_le i) (Nat.mul_le_mul_right _ (Nat.le_max_left ..))

/-- The halves of a chunk are at most half as large as the chunks were, rounded up. -/
theorem width_chunks_le (i : Fin st.parts) :
    State.width ⟨st.chunks i, 2⟩ ≤ (st.width + 1) / 2 := by
  have hlen := length_chunks_le i
  have hwidth := width_pos (Nat.zero_lt_of_lt i.isLt)
  refine width_le_of_length_le (by omega) ?_
  dsimp only
  omega

/-- So are the chunks of a refined split. -/
theorem width_refined_le (h : 0 < st.parts) :
    State.width ⟨st.candidate, min (2 * st.parts) st.candidate.length⟩ ≤ (st.width + 1) / 2 := by
  have hwidth := width_pos h
  refine width_le_of_length_le (by omega) ?_
  dsimp only
  rcases Nat.le_total (2 * st.parts) st.candidate.length with hm | hm
  · rw [Nat.min_eq_left hm]
    calc st.candidate.length ≤ st.parts * st.width := length_le_mul_width h
      _ ≤ st.parts * (2 * ((st.width + 1) / 2)) := Nat.mul_le_mul_left _ (by omega)
      _ = 2 * st.parts * ((st.width + 1) / 2) := by rw [← Nat.mul_assoc, Nat.mul_comm st.parts 2]
  · rw [Nat.min_eq_right hm]
    exact Nat.le_mul_of_pos_right _ (by omega)

end State

/-! ## Rounds that halve -/

/-- The round refined the split or kept a single chunk. -/
def Step.halves : Step → Bool
  | .refined _ => true
  | .reduced .subset _ _ => true
  | _ => false

/-- The round adopted a smaller candidate. -/
def Step.reduces : Step → Bool
  | .reduced _ _ _ => true
  | _ => false

section Step

variable {scan : Scan σ} {st : State} {s s' : Session σ} {r : Step}

/-- The chunks never become larger, and half as large with every refinement and every chunk that is
    kept. -/
theorem step_width (h : step scan st s = (.ok r, s')) (hg : 0 < st.granularity) :
    (st.after r).width ≤ st.width ∧
      (r.halves = true → (st.after r).width ≤ (st.width + 1) / 2) := by
  obtain ⟨_, rfl, _⟩ | ⟨i, _, rfl⟩ | ⟨i, _, _, _, _, rfl⟩ | ⟨hne, _, _, _, rfl⟩ := step_ok_cases h
  · exact ⟨Nat.le_refl _, nofun⟩
  · exact ⟨State.width_complements_le i, nofun⟩
  · have hhalf := State.width_chunks_le i
    have hpos := State.width_pos (Nat.zero_lt_of_lt i.isLt)
    exact ⟨Nat.le_trans hhalf (by omega), fun _ => hhalf⟩
  · rcases st.exhausted_cases with ⟨_, he⟩ | ⟨_, he⟩
    · have hpos := State.parts_pos hg hne
      have hhalf := State.width_refined_le hpos
      have hwidth := State.width_pos hpos
      rw [he]
      exact ⟨Nat.le_trans hhalf (by omega), fun _ => hhalf⟩
    · rw [he]
      exact ⟨Nat.le_refl _, nofun⟩

/-! ## How often a split can be halved -/

/-- So many refinements and single chunks may still come. With one byte there are none; before
    that, the last chunk that is kept may be a single byte already. -/
def State.halvingsLeft (st : State) : Nat :=
  if st.candidate.length ≤ 1 then 0 else Nat.clog 2 st.width + 1

theorem clog_lt_of_le_half {v w : Nat} (hw : 2 ≤ w) (hv : v ≤ (w + 1) / 2) :
    Nat.clog 2 v < Nat.clog 2 w := by
  have hrec : Nat.clog 2 w = Nat.clog 2 ((w + 1) / 2) + 1 := Nat.clog_of_two_le (by omega) hw
  have hmono := Nat.clog_mono_right 2 hv
  omega

theorem State.halvingsLeft_initial (input : Candidate) (h : 2 ≤ input.length) :
    (State.initial input).halvingsLeft = Nat.clog 2 input.length := by
  have hparts : (State.initial input).parts = 2 := Nat.min_eq_left h
  have hrec : Nat.clog 2 input.length = Nat.clog 2 ((input.length + 1) / 2) + 1 :=
    Nat.clog_of_two_le (by omega) h
  unfold State.halvingsLeft State.width
  rw [hparts, hrec]
  exact if_neg (by change ¬ input.length ≤ 1; omega)

/-- Only what has two bytes is halved, and if two are left, the chunks had two. -/
theorem step_halves (h : step scan st s = (.ok r, s')) (hg : 0 < st.granularity)
    (hr : r.halves = true) :
    2 ≤ st.candidate.length ∧ (2 ≤ (st.after r).candidate.length → 2 ≤ st.width) := by
  have hparts := st.parts_le
  obtain ⟨_, rfl, _⟩ | ⟨i, _, rfl⟩ | ⟨i, _, _, hn, _, rfl⟩ | ⟨hne, _, _, _, rfl⟩ := step_ok_cases h
  · cases hr
  · cases hr
  · have hlen := State.length_chunks_le i
    exact ⟨by omega, fun htwo => Nat.le_trans htwo hlen⟩
  · rcases st.exhausted_cases with ⟨hlt, _⟩ | ⟨_, he⟩
    · have hpos := State.parts_pos hg hne
      have hle := State.length_le_mul_width hpos
      have hwidth := State.width_pos hpos
      refine ⟨by omega, fun _ => ?_⟩
      by_contra hone
      rw [show st.width = 1 by omega] at hle
      omega
    · rw [he] at hr
      cases hr

/-- Every halving takes one from those that are left, and no round adds any. -/
theorem step_halvingsLeft (h : step scan st s = (.ok r, s')) (hg : 0 < st.granularity) :
    (st.after r).halvingsLeft + r.halves.toNat ≤ st.halvingsLeft := by
  obtain ⟨hwidth, hhalf⟩ := step_width h hg
  have hlen := (step_sublist h).length_le
  unfold State.halvingsLeft
  cases hr : r.halves with
  | false =>
    have hclog := Nat.clog_mono_right 2 hwidth
    rw [Bool.toNat_false]
    split <;> split <;> omega
  | true =>
    obtain ⟨htwo, hchunks⟩ := step_halves h hg hr
    rw [Bool.toNat_true, if_neg (show ¬ st.candidate.length ≤ 1 by omega)]
    split
    case isTrue => omega
    case isFalse hlong =>
      have hlt := clog_lt_of_le_half (hchunks (by omega)) (hhalf hr)
      omega

end Step

/-! ## The counts -/

namespace Tally

/-- The refinements and the chunks that were kept. -/
def halvings (t : Tally) : Nat := t.granularityIncreases + t.subsetReductions

/-- The candidates that were adopted. -/
def reductions (t : Tally) : Nat := t.complementReductions + t.subsetReductions

theorem counts_of_progress_eq {t t' : Tally} (h : t.progress = t'.progress) :
    t.halvings = t'.halvings ∧ t.reductions = t'.reductions := by
  obtain ⟨hc, hs, hg⟩ := progress_eq_iff.mp h
  unfold halvings reductions
  rw [hc, hs, hg]
  exact ⟨rfl, rfl⟩

end Tally

theorem Session.counts_proceed (s : Session σ) (st : State) (r : Step) :
    (s.proceed st r).tally.halvings = s.tally.halvings + r.halves.toNat ∧
      (s.proceed st r).tally.reductions = s.tally.reductions + r.reduces.toNat := by
  cases r with
  | done => exact ⟨rfl, rfl⟩
  | refined g => exact ⟨Nat.add_right_comm _ 1 _, rfl⟩
  | reduced phase i next =>
    cases phase with
    | complement => exact ⟨rfl, Nat.add_right_comm _ 1 _⟩
    | subset => exact ⟨rfl, rfl⟩

section Counts

variable {scan : Scan σ} (hp : scan.KeepsProgress)

include hp

theorem step_counts {st : State} {s s' : Session σ} {r : Step}
    (h : step scan st s = (.ok r, s')) :
    (s'.proceed st r).tally.halvings = s.tally.halvings + r.halves.toNat ∧
      (s'.proceed st r).tally.reductions = s.tally.reductions + r.reduces.toNat := by
  have hprogress := progress_step hp st s
  rw [h] at hprogress
  obtain ⟨hh, hr⟩ := Tally.counts_of_progress_eq hprogress
  obtain ⟨hh', hr'⟩ := s'.counts_proceed st r
  rw [hh', hr', hh, hr]
  exact ⟨rfl, rfl⟩

theorem halvings_descend {st st' : State} (hg : 0 < st.granularity) {s s' : Session σ}
    (h : descend scan st hg s = (.ok st', s')) :
    s'.tally.halvings ≤ s.tally.halvings + st.halvingsLeft := by
  refine descend_potential scan hg s (fun s => s.tally.halvings) State.halvingsLeft (fun _ => 0)
    ?_ ?_ h
  · intro st s r s' hg hstep _
    have hleft := step_halvingsLeft hstep hg
    rw [(step_counts hp hstep).1]
    omega
  · intro st s s' _ hstep
    have hcount : s'.tally.halvings = s.tally.halvings := (step_counts hp hstep).1
    omega

theorem reductions_descend {st st' : State} (hg : 0 < st.granularity) {s s' : Session σ}
    (h : descend scan st hg s = (.ok st', s')) :
    s'.tally.reductions + st'.candidate.length ≤ s.tally.reductions + st.candidate.length := by
  refine descend_potential scan hg s (fun s => s.tally.reductions)
    (fun st => st.candidate.length) (fun st => st.candidate.length) ?_ ?_ h
  · intro st s r s' hg hstep _
    rw [(step_counts hp hstep).2]
    cases r with
    | done => exact Nat.le_refl _
    | refined g => exact Nat.le_refl _
    | reduced phase i next =>
      have hlt := (step_reduced hstep).1
      simp only [Step.reduces, Bool.toNat_true, State.after]
      omega
  · intro st s s' _ hstep
    have hcount : s'.tally.reductions = s.tally.reductions := (step_counts hp hstep).2
    omega

end Counts

theorem progress_verify (opts : Options) (o : Oracle σ) (input : Candidate) (s : Session σ) :
    (verify opts o input s).2.tally.progress = s.tally.progress := by
  obtain ⟨_, _, h⟩ := probe_inquiry o opts.doubleCheck input s
  have htally := h.tally
  unfold verify
  split
  · generalize probe o opts.doubleCheck input s = x at htally ⊢
    obtain ⟨r, s1⟩ := x
    cases r with
    | error e => exact congrArg Tally.progress htally
    | ok p =>
      have hrecord : (s1.record p).tally.progress = s.tally.progress :=
        (s1.tally.progress_record p).trans (congrArg Tally.progress htally)
      dsimp only
      split
      · exact hrecord
      · exact hrecord
  · rfl

/-- What the counts of a result for `len` bytes are bounded by. -/
structure Result.ProgressWithin (r : Result) (len : Nat) : Prop where
  halvings : r.granularityIncreases + r.subsetReductions ≤ Nat.clog 2 len
  reductions : r.complementReductions + r.subsetReductions ≤ r.originalSize - r.minimizedSize

section Minimize

variable {opts : Options} {o : Oracle σ} {input : Candidate} {s s' : Session σ}

/-- The search of a minimization starts with nothing counted, whether the input is probed or not. -/
theorem counts_of_verify (htally : s.tally = {}) (h : verify opts o input s = (.ok (), s')) :
    s'.tally.halvings = 0 ∧ s'.tally.reductions = 0 := by
  have hstart := progress_verify opts o input s
  rw [h, htally] at hstart
  exact Tally.counts_of_progress_eq hstart

variable {scan : Scan σ} (hp : scan.KeepsProgress) (htally : s.tally = {}) {r : Result}

include hp htally

theorem reductions_of_minimizeWith (h : minimizeWith scan opts o input s = (.ok r, s')) :
    r.complementReductions + r.subsetReductions ≤ r.originalSize - r.minimizedSize := by
  obtain ⟨s1, s2, m, hverify, hsearch, rfl, _⟩ := minimizeWith_ok h
  obtain ⟨_, hzero⟩ := counts_of_verify htally hverify
  have hle : s2.tally.reductions + m.length ≤ input.length := by
    rcases search_ok hsearch with ⟨hshort, rfl, _⟩ | ⟨_, ⟨st, hdescend, rfl⟩, _⟩
    · rw [search_of_short hshort] at hsearch
      cases hsearch
      omega
    · have hreductions := reductions_descend hp Nat.two_pos hdescend
      rw [hzero, Nat.zero_add] at hreductions
      exact hreductions
  exact Nat.le_sub_of_add_le hle

theorem progressWithin_of_minimizeWith (hlen : 2 ≤ input.length)
    (h : minimizeWith scan opts o input s = (.ok r, s')) : r.ProgressWithin input.length := by
  refine ⟨?_, reductions_of_minimizeWith hp htally h⟩
  obtain ⟨s1, s2, m, hverify, hsearch, rfl, _⟩ := minimizeWith_ok h
  obtain ⟨hzero, _⟩ := counts_of_verify htally hverify
  rcases search_ok hsearch with ⟨hshort, _⟩ | ⟨_, ⟨st, hdescend, rfl⟩, _⟩
  · omega
  · have hhalvings := halvings_descend hp Nat.two_pos hdescend
    rw [State.halvingsLeft_initial input hlen, hzero, Nat.zero_add] at hhalvings
    exact hhalvings

end Minimize

/-! ## The rounds of a search -/

/-- No later split is wider. -/
theorem rounds_width (scan : Scan σ) (st : State) (hg : 0 < st.granularity) (s : Session σ) :
    (rounds scan st hg s).Pairwise fun earlier later => later.state.width ≤ earlier.state.width := by
  induction st, hg, s using descend_induction scan with
  | error st hg s e s' h =>
    rw [rounds_error h]
    exact List.pairwise_singleton _ _
  | done st hg s s' h =>
    rw [rounds_done h]
    exact List.pairwise_singleton _ _
  | next st hg s r s' h hr ih =>
    have hwidth := (step_width h hg).1
    rw [rounds_next h hr]
    refine List.Pairwise.cons (fun later hlater => ?_) ih
    obtain ⟨⟨_, hle⟩, _⟩ := rounds_invariant scan (step_granularity_pos h hg) (s'.proceed st r)
      (P := fun st' _ => 0 < st'.granularity ∧ st'.width ≤ (st.after r).width)
      (fun _ _ _ _ hP hstep _ => ⟨step_granularity_pos hstep hP.1,
        Nat.le_trans (step_width hstep hP.1).1 hP.2⟩)
      ⟨step_granularity_pos h hg, Nat.le_refl _⟩ later hlater
    exact Nat.le_trans hle hwidth

/-- The split after the round is at most half as wide, rounded up, if the round halved. -/
def Round.HalvesWidth (round : Round σ) : Prop :=
  ∀ r, round.outcome = .ok r → r.halves = true →
    (round.state.after r).width ≤ (round.state.width + 1) / 2

theorem halvesWidth_of_mem_rounds {scan : Scan σ} {st : State} (hg : 0 < st.granularity)
    (s : Session σ) : ∀ round ∈ rounds scan st hg s, round.HalvesWidth := by
  intro round hround r hr hhalves
  obtain ⟨hpos, hstep⟩ := rounds_invariant scan hg s (P := fun st _ => 0 < st.granularity)
    (fun _ _ _ _ hP hstep _ => step_granularity_pos hstep hP) hg round hround
  rw [hr] at hstep
  exact (step_width hstep hpos).2 hhalves

/-- **Progress is bounded.** Whatever the oracle answers, with any options and any mix of the moves
    of a pool's workers, a result for `n` bytes took at most `⌈log₂ n⌉` refinements and chunks that
    were kept, together, and adopted at most as many candidates as bytes went.

    The largest chunks do not grow from one round to a later one, and a round that refines or keeps
    a chunk leaves chunks of at most half the size, rounded up. -/
theorem progress_bounded (o : Oracle σ) (opts : Options) (input : Candidate)
    (hlen : 2 ≤ input.length) (s : Session σ) :
    (∀ r s', minimize opts o input s = (.ok r, s') → r.ProgressWithin input.length) ∧
    (∀ (schedule : Pool.Schedule σ opts.doubleCheck) r s',
      minimizeWith (Pool.scanBy o schedule) opts o input { s with tally := {} } = (.ok r, s') →
      r.ProgressWithin input.length) ∧
    ∀ scan : Scan σ,
      ((minimizeRoundsWith scan opts o input s).Pairwise fun earlier later =>
        later.state.width ≤ earlier.state.width) ∧
      ∀ round ∈ minimizeRoundsWith scan opts o input s, round.HalvesWidth := by
  refine ⟨fun r s' h => ?_, fun schedule r s' h => ?_, fun scan => ?_⟩
  · exact progressWithin_of_minimizeWith (opts.keepsProgress_scan o) rfl hlen h
  · exact progressWithin_of_minimizeWith (Pool.keepsProgress_scanBy o schedule) rfl hlen h
  · rcases minimizeRoundsWith_cases scan opts o input s with hnone | ⟨_, s1, hrounds⟩
    · rw [hnone]
      exact ⟨List.Pairwise.nil, nofun⟩
    · rw [hrounds]
      exact ⟨rounds_width scan _ Nat.two_pos s1, halvesWidth_of_mem_rounds Nat.two_pos s1⟩

/-- Four bytes of which one fails alone: a refinement and a chunk that is kept, as many as there may
    be. -/
theorem progress_bounded_failsAt :
    ∃ r s', minimize {} (Oracle.ofFunction (failsAt [[97, 98, 99, 100], [98]])) [97, 98, 99, 100]
        (Session.start ()) = (.ok r, s') ∧
      r.ProgressWithin 4 ∧ r.granularityIncreases + r.subsetReductions = Nat.clog 2 4 := by
  have hseq : (minimize {} (Oracle.ofFunction (failsAt [[97, 98, 99, 100], [98]]))
      [97, 98, 99, 100] (Session.start ())).1 = .ok ⟨[98], 4, 1, 11, 0, 0, 1, 1, 0⟩ := by
    cbv
  have h := Prod.fst_eq_iff.mp hseq
  exact ⟨_, _, h, (progress_bounded _ _ _ (by decide) _).1 _ _ h, by decide⟩

end DeltaDebug
