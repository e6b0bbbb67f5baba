import DeltaDebug.Proofs.Run
import Mathlib.Algebra.Group.Nat.Defs

/-
  Rounds in words of 64 bits. Lengths, indices and granularities are words here, and whatever can
  go wrong with them is a `Trap`: a sum, a difference or a product that does not fit, a chunk of a
  split that does not exist, a slice that leaves the bytes. The candidates of a scan are all made
  before it starts (`candidates`), so that a round is trapped if any of them cannot be made,
  whichever of them the scan would ask for.

  A candidate of less than 2^63 bytes traps no round, whatever the granularity is, and the round
  comes to what it comes to in natural numbers (`step_eq_ok`). Behind it is one lemma for each
  function: `chunkAt_ok`, where sums and products are bounded by the length, and on it
  `chunk_ok` and `complement_ok`.

  In the states of a minimization the granularity lies between 2 and the length, or is 2 where
  that is more (`State.Graded`): a round hands this on, since what is left without a chunk holds a
  byte for each of the others (`step_graded`).
-/

namespace DeltaDebug

variable {σ : Type}

namespace Word

/-! ## Trapped computations -/

/-- Why a computation with words stops. -/
inductive Trap where
  /-- A sum, a difference or a product is not a word. -/
  | overflow
  /-- A chunk was asked for that does not exist. -/
  | fault (f : Partition.Fault)
  /-- A slice does not lie within the bytes. -/
  | range (start stop len : UInt64)
deriving DecidableEq

def add (a b : UInt64) : Except Trap UInt64 :=
  if a.toNat + b.toNat < 2 ^ 64 then .ok (a + b) else .error .overflow

def sub (a b : UInt64) : Except Trap UInt64 :=
  if b ≤ a then .ok (a - b) else .error .overflow

def mul (a b : UInt64) : Except Trap UInt64 :=
  if a.toNat * b.toNat < 2 ^ 64 then .ok (a * b) else .error .overflow

/-- The number of bytes. -/
def length (c : Candidate) : UInt64 := .ofNat c.length

/-- The bytes from `start` on and before `stop`. -/
def slice (c : Candidate) (start stop : UInt64) : Except Trap Candidate :=
  if start ≤ stop ∧ stop ≤ length c then .ok ((c.take stop.toNat).drop start.toNat)
  else .error (.range start stop (length c))

/-- A contiguous range of the candidate that is being split. -/
structure Chunk where
  start : UInt64
  len : UInt64
deriving DecidableEq

def Chunk.stop (c : Chunk) : Except Trap UInt64 := add c.start c.len

/-- Chunk `i` of `len` bytes in `n`. -/
def chunkAt (len i n : UInt64) : Except Trap Chunk :=
  if n < 1 ∨ len < n then .error (.fault (.count len.toNat n.toNat))
  else if n ≤ i then .error (.fault (.index i.toNat n.toNat))
  else do
    let start ← add (← mul i (len / n)) (min i (len % n))
    let size ← add (len / n) (if i < len % n then 1 else 0)
    return ⟨start, size⟩

/-- The bytes of chunk `i` alone. -/
def chunk (c : Candidate) (i n : UInt64) : Except Trap Candidate := do
  let kept ← chunkAt (length c) i n
  slice c kept.start (← kept.stop)

/-- The candidate with chunk `i` deleted. The room for it is measured before it is copied. -/
def complement (c : Candidate) (i n : UInt64) : Except Trap Candidate := do
  let removed ← chunkAt (length c) i n
  let _room ← sub (length c) removed.len
  let before ← slice c 0 removed.start
  let behind ← slice c (← removed.stop) (length c)
  return before ++ behind

/-- All candidates of a scan. -/
def candidates (count : Nat) (build : UInt64 → Except Trap Candidate) :
    Except Trap (Fin count → Candidate) :=
  (Vector.ofFnM fun i : Fin count => build (.ofNat i)).map fun all i => all[i]

/-- What follows when nothing smaller fails, after a round with `n` chunks. -/
def exhausted (c : Candidate) (n : UInt64) : Except Trap Step :=
  if n < length c then do
    let twice ← mul 2 n
    return .refined (min twice (length c)).toNat
  else return .done

/-- A round goes on with what its scan found, with `next` if it found nothing, and no further
    after an error. -/
def resume {count : Nat} (found : Fin count → Except Trap Step)
    (next : Session σ → Except Trap (Except OracleError Step × Session σ)) :
    Except OracleError (Option (Fin count)) × Session σ →
      Except Trap (Except OracleError Step × Session σ)
  | (.error e, s) => return (.error e, s)
  | (.ok (some i), s) => return (.ok (← found i), s)
  | (.ok none, s) => next s

/-- The chunks alone are tried; a single chunk would be the candidate itself. -/
def tryChunks (scan : Scan σ) (c : Candidate) (n : UInt64) (s : Session σ) :
    Except Trap (Except OracleError Step × Session σ) := do
  let next := fun s => return (.ok (← exhausted c n), s)
  if 1 < n then
    let chunks ← candidates n.toNat (chunk c · n)
    let found := fun i => return .reduced .subset i ⟨chunks i, 2⟩
    resume found next (scan n.toNat chunks s)
  else next s

/-- One round, from the candidate `c` and the granularity `g`. -/
def step (scan : Scan σ) (c : Candidate) (g : UInt64) (s : Session σ) :
    Except Trap (Except OracleError Step × Session σ) :=
  if length c = 0 then return (.ok .done, s)
  else do
    let n := min g (length c)
    let s := s.note (.probingRound (length c).toNat n.toNat)
    let complements ← candidates n.toNat (complement c · n)
    let found := fun i => do
      let fewer ← sub n 1
      return .reduced .complement i ⟨complements i, (max fewer 2).toNat⟩
    resume found (tryChunks scan c n) (scan n.toNat complements s)

/-! ## Words as numbers -/

theorem bind_ok {α β : Type} {x : Except Trap α} {a : α} (h : x = .ok a) (f : α → Except Trap β) :
    (x >>= f) = f a := by
  rw [h]
  rfl

theorem add_ok {a b : UInt64} (h : a.toNat + b.toNat < 2 ^ 64) :
    ∃ w, add a b = .ok w ∧ w.toNat = a.toNat + b.toNat :=
  ⟨a + b, if_pos h, by rw [UInt64.toNat_add, Nat.mod_eq_of_lt h]⟩

theorem sub_ok {a b : UInt64} (h : b.toNat ≤ a.toNat) :
    ∃ w, sub a b = .ok w ∧ w.toNat = a.toNat - b.toNat :=
  ⟨a - b, if_pos h, UInt64.toNat_sub_of_le a b h⟩

theorem mul_ok {a b : UInt64} (h : a.toNat * b.toNat < 2 ^ 64) :
    ∃ w, mul a b = .ok w ∧ w.toNat = a.toNat * b.toNat :=
  ⟨a * b, if_pos h, by rw [UInt64.toNat_mul, Nat.mod_eq_of_lt h]⟩

theorem toNat_min (a b : UInt64) : (min a b).toNat = min a.toNat b.toNat :=
  (apply_ite UInt64.toNat (a ≤ b) a b).trans rfl

theorem toNat_max (a b : UInt64) : (max a b).toNat = max a.toNat b.toNat :=
  (apply_ite UInt64.toNat (a ≤ b) b a).trans rfl

section Candidate

variable {c : Candidate} (hc : c.length < 2 ^ 64)

include hc

theorem toNat_length : (length c).toNat = c.length := UInt64.toNat_ofNat_of_lt' hc

theorem slice_ok {start stop : UInt64} (hle : start.toNat ≤ stop.toNat)
    (hstop : stop.toNat ≤ c.length) :
    slice c start stop = .ok ((c.take stop.toNat).drop start.toNat) := by
  have hin : stop ≤ length c := by
    rw [UInt64.le_iff_toNat_le, toNat_length hc]
    exact hstop
  exact if_pos ⟨hle, hin⟩

end Candidate

/-! ## Chunks -/

/-- A chunk of a split that exists is not trapped, and is the chunk in natural numbers. -/
theorem chunkAt_ok {len i n : UInt64} (hn : n.toNat ≤ len.toNat) (hi : i.toNat < n.toNat) :
    ∃ cut, chunkAt len i n = .ok cut ∧
      cut.start.toNat = (DeltaDebug.Chunk.balanced len.toNat n.toNat i.toNat).start ∧
      cut.len.toNat = (DeltaDebug.Chunk.balanced len.toNat n.toNat i.toNat).len := by
  have hlen := len.toNat_lt
  -- all sums and products are parts of the position behind the chunk, which is in the bytes
  have hstop := Partition.balanced_stop_le len.toNat hi
  unfold DeltaDebug.Chunk.stop DeltaDebug.Chunk.balanced at hstop
  dsimp only at hstop
  have hq : (len / n).toNat = len.toNat / n.toNat := UInt64.toNat_div len n
  have hr : (min i (len % n)).toNat = min i.toNat (len.toNat % n.toNat) := by
    rw [toNat_min, UInt64.toNat_mod]
  have hone : (if i < len % n then 1 else 0 : UInt64).toNat =
      if i.toNat < len.toNat % n.toNat then 1 else 0 := by
    rw [apply_ite UInt64.toNat]
    simp only [UInt64.lt_iff_toNat_lt, UInt64.toNat_mod, UInt64.reduceToNat]
  obtain ⟨before, hbefore, hbefore'⟩ := mul_ok (a := i) (b := len / n) (by rw [hq]; omega)
  obtain ⟨start, hstart, hstart'⟩ := add_ok (a := before) (b := min i (len % n)) (by
    rw [hbefore', hq, hr]
    omega)
  obtain ⟨size, hsize, hsize'⟩ := add_ok (a := len / n) (b := if i < len % n then 1 else 0) (by
    rw [hq, hone]
    omega)
  have hcount : ¬ (n < 1 ∨ len < n) := by
    rw [UInt64.lt_iff_toNat_lt, UInt64.lt_iff_toNat_lt, UInt64.toNat_one]
    omega
  have hindex : ¬ n ≤ i := by
    rw [UInt64.le_iff_toNat_le]
    omega
  refine ⟨⟨start, size⟩, ?_, ?_, ?_⟩
  · unfold chunkAt
    rw [if_neg hcount, if_neg hindex, bind_ok hbefore, bind_ok hstart, bind_ok hsize]
    rfl
  · rw [hstart', hbefore', hq, hr]
    rfl
  · rw [hsize', hq, hone]
    rfl

/-- Three bytes cannot be split in five. -/
example : chunkAt 3 0 5 = .error (.fault (.count 3 5)) := rfl

section Cut

variable {c : Candidate} {i n : UInt64} (hc : c.length < 2 ^ 64) (hn : n.toNat ≤ c.length)
  (hi : i.toNat < n.toNat)

include hc hn hi

/-- The chunk lies inside the candidate, and its stop can be computed. -/
theorem chunkAt_length_ok : ∃ cut stop, chunkAt (length c) i n = .ok cut ∧
    cut.stop = .ok stop ∧
    cut.start.toNat = (DeltaDebug.Chunk.balanced c.length n.toNat i.toNat).start ∧
    cut.len.toNat = (DeltaDebug.Chunk.balanced c.length n.toNat i.toNat).len ∧
    stop.toNat = cut.start.toNat + cut.len.toNat ∧ stop.toNat ≤ c.length := by
  have hlen := toNat_length hc
  have hinside := Partition.balanced_stop_le c.length hi
  have hn' : n.toNat ≤ (length c).toNat := by
    rw [hlen]
    exact hn
  obtain ⟨cut, hcut, hstart, hsize⟩ := chunkAt_ok hn' hi
  rw [hlen] at hstart hsize
  unfold DeltaDebug.Chunk.stop at hinside
  rw [← hstart, ← hsize] at hinside
  obtain ⟨stop, hstop, hstop'⟩ := add_ok (Nat.lt_of_le_of_lt hinside hc)
  exact ⟨cut, stop, hcut, hstop, hstart, hsize, hstop', by rw [hstop']; exact hinside⟩

theorem chunk_ok : chunk c i n = .ok (Partition.chunk c i.toNat n.toNat) := by
  obtain ⟨cut, stop, hcut, hstop, hstart, hsize, hstop', hle⟩ := chunkAt_length_ok hc hn hi
  unfold chunk
  rw [bind_ok hcut, bind_ok hstop, slice_ok hc (by omega) hle, List.drop_take, hstop',
    Nat.add_sub_cancel_left, hstart, hsize]
  rfl

theorem complement_ok : complement c i n = .ok (Partition.complement c i.toNat n.toNat) := by
  have hlen := toNat_length hc
  obtain ⟨cut, stop, hcut, hstop, hstart, hsize, hstop', hle⟩ := chunkAt_length_ok hc hn hi
  obtain ⟨room, hroom, _⟩ := sub_ok (a := length c) (b := cut.len) (by omega)
  have hbefore : slice c 0 cut.start = .ok (c.take cut.start.toNat) :=
    slice_ok hc (Nat.zero_le _) (by omega)
  have hbehind := slice_ok hc (show stop.toNat ≤ (length c).toNat by omega) (by omega)
  unfold complement
  rw [bind_ok hcut, bind_ok hroom, bind_ok hbefore, bind_ok hstop, bind_ok hbehind, hlen,
    List.take_length, hstop', hstart, hsize]
  rfl

end Cut

/-! ## Rounds -/

theorem candidates_ok {count : Nat} {build : UInt64 → Except Trap Candidate}
    {f : Fin count → Candidate} (h : ∀ i : Fin count, build (.ofNat i) = .ok (f i)) :
    candidates count build = .ok f := by
  have hpure : (fun i : Fin count => build (.ofNat i)) = fun i => pure (f i) := funext h
  unfold candidates
  rw [hpure, Vector.ofFnM_pure]
  exact congrArg Except.ok (funext fun i => Vector.getElem_ofFn i.isLt)

theorem toNat_ofNat_index {n : UInt64} (i : Fin n.toNat) : (UInt64.ofNat i).toNat = i :=
  UInt64.toNat_ofNat_of_lt' (Nat.lt_trans i.isLt n.toNat_lt)

section Round

variable {c : Candidate} (hc : c.length < 2 ^ 64) {n : UInt64} (hn : n.toNat ≤ c.length)

include hc hn

theorem complements_ok : candidates n.toNat (complement c · n) =
    .ok fun i => Partition.complement c i n.toNat := by
  refine candidates_ok fun i => ?_
  have hi := toNat_ofNat_index i
  rw [complement_ok hc hn (by rw [hi]; exact i.isLt), hi]

theorem chunks_ok : candidates n.toNat (chunk c · n) =
    .ok fun i => Partition.chunk c i n.toNat := by
  refine candidates_ok fun i => ?_
  have hi := toNat_ofNat_index i
  rw [chunk_ok hc hn (by rw [hi]; exact i.isLt), hi]

end Round

section Step

variable {st : State} (hc : st.candidate.length < 2 ^ 63) {n : UInt64} (hn : n.toNat = st.parts)

include hn

theorem le_length_of_parts : n.toNat ≤ st.candidate.length := by
  rw [hn]
  exact st.parts_le

include hc

/-- There is room to double the number of chunks if it is less than the length. -/
theorem exhausted_ok : exhausted st.candidate n = .ok st.exhausted := by
  have hlen := toNat_length (c := st.candidate) (by omega)
  have hiff : n < length st.candidate ↔ st.parts < st.candidate.length := by
    rw [UInt64.lt_iff_toNat_lt, hlen, hn]
  unfold exhausted State.exhausted
  by_cases hlt : st.parts < st.candidate.length
  · have htwo : (2 : UInt64).toNat = 2 := rfl
    obtain ⟨twice, htwice, htwice'⟩ := mul_ok (a := 2) (b := n) (by rw [htwo, hn]; omega)
    rw [if_pos hlt, if_pos (hiff.mpr hlt), bind_ok htwice, toNat_min, htwice', hlen, hn]
    rfl
  · rw [if_neg hlt, if_neg fun h => hlt (hiff.mp h)]
    rfl

theorem tryChunks_ok (scan : Scan σ) (s : Session σ) :
    tryChunks scan st.candidate n s = .ok (DeltaDebug.tryChunks scan st s) := by
  have hone : 1 < n ↔ 1 < st.parts := by
    rw [UInt64.lt_iff_toNat_lt, UInt64.toNat_one, hn]
  have hchunks := chunks_ok (by omega) (le_length_of_parts hn)
  unfold tryChunks
  dsimp only
  by_cases hlt : 1 < st.parts
  · rw [if_pos (hone.mpr hlt), bind_ok hchunks, exhausted_ok hc hn, hn, tryChunks_of_one_lt s hlt]
    change resume _ _ (scan st.parts st.chunks s) = _
    rcases scan st.parts st.chunks s with ⟨_ | _ | _, _⟩ <;> rfl
  · rw [if_neg fun h => hlt (hone.mp h), bind_ok (exhausted_ok hc hn)]
    exact congrArg Except.ok (if_neg hlt).symm

end Step

/-- A round of a candidate that is not too long is not trapped, and comes to what it comes to in
    natural numbers. -/
theorem step_eq_ok (scan : Scan σ) (st : State) (hc : st.candidate.length < 2 ^ 63) {g : UInt64}
    (hg : g.toNat = st.granularity) (s : Session σ) :
    step scan st.candidate g s = .ok (DeltaDebug.step scan st s) := by
  have hlen := toNat_length (c := st.candidate) (by omega)
  have hn : (min g (length st.candidate)).toNat = st.parts := by
    rw [toNat_min, hlen, hg]
    rfl
  unfold step
  by_cases hnil : st.candidate = []
  · have hempty : Rounded scan st s (.ok .done, s) := .empty hnil
    rw [hempty.step_eq, hnil]
    rfl
  · have hpos := List.length_pos_iff.mpr hnil
    have hzero : length st.candidate ≠ 0 := by
      intro h
      rw [h] at hlen
      exact Nat.ne_of_lt hpos hlen
    generalize min g (length st.candidate) = n at hn ⊢
    have hcomplements := complements_ok (c := st.candidate) (by omega) (le_length_of_parts hn)
    rw [if_neg hzero, step_of_ne_nil s hnil]
    dsimp only
    rw [hlen, bind_ok hcomplements, hn]
    change resume _ _ (scan st.parts st.complements (s.beginRound st)) = _
    rcases scan st.parts st.complements (s.beginRound st) with ⟨e | _ | i, s1⟩
    · rfl
    · exact tryChunks_ok hc hn scan s1
    · -- there is a chunk, so one fewer can be counted
      have hi := i.isLt
      obtain ⟨fewer, hfewer, hfewer'⟩ := sub_ok (a := n) (b := 1) (by
        rw [UInt64.toNat_one]
        omega)
      unfold resume
      dsimp only
      rw [bind_ok hfewer, toNat_max, hfewer', hn]
      rfl

end Word

/-! ## Granularities -/

/-- The granularity is at least 2, and no more than the length where that is at least 2. -/
structure State.Graded (st : State) : Prop where
  two_le : 2 ≤ st.granularity
  le_max : st.granularity ≤ max 2 st.candidate.length

theorem State.graded_initial (input : Candidate) : (State.initial input).Graded :=
  ⟨Nat.le_refl 2, Nat.le_max_left 2 _⟩

/-- Without one of its chunks a candidate still has a byte for each of the others. -/
theorem State.pred_parts_le (st : State) (i : Fin st.parts) :
    st.parts - 1 ≤ (st.complements i).length := by
  have hchunk := Partition.length_chunk_add_le st.parts_le i.isLt
  rw [Partition.length_chunk i.isLt] at hchunk
  have hrest := Partition.length_complement st.candidate i.isLt
  unfold State.complements
  omega

theorem step_graded {scan : Scan σ} {st : State} {s s' : Session σ} {r : Step}
    (h : step scan st s = (.ok r, s')) (hst : st.Graded) : (st.after r).Graded := by
  refine ⟨step_granularity_two h hst.two_le, ?_⟩
  obtain ⟨_, rfl, _⟩ | ⟨i, _, rfl⟩ | ⟨i, _, _, _, _, rfl⟩ | ⟨_, _, _, _, rfl⟩ := step_ok_cases h
  · exact hst.le_max
  · have hle := st.pred_parts_le i
    change max (st.parts - 1) 2 ≤ max 2 (st.complements i).length
    omega
  · exact Nat.le_max_left 2 _
  · rcases st.exhausted_cases with ⟨_, he⟩ | ⟨_, he⟩
    · rw [he]
      exact Nat.le_trans (Nat.min_le_right _ _) (Nat.le_max_right 2 _)
    · rw [he]
      exact hst.le_max

/-- **Rounds stay within their words.** Whatever scan a search goes by (in order, by a pool, and
    with whatever oracle), a round from any candidate of less than 2^63 bytes at any granularity
    of 64 bits is not trapped, and comes to what it comes to in natural numbers; and in every
    state that a minimization reaches, in the rounds that lead to its result or its error, the
    granularity is between 2 and the length, or 2 where that is more. -/
theorem rounds_untrapped (scan : Scan σ) :
    (∀ (c : Candidate) (g : UInt64) (s : Session σ), c.length < 2 ^ 63 →
      Word.step scan c g s = .ok (step scan ⟨c, g.toNat⟩ s)) ∧
    ∀ (opts : Options) (o : Oracle σ) (input : Candidate) (s : Session σ),
      MinimizesBy scan opts o input s (minimizeRoundsWith scan opts o input s)
        (minimizeWith scan opts o input s) ∧
      (State.initial input).Graded ∧
      ∀ round ∈ minimizeRoundsWith scan opts o input s, round.state.Graded ∧
        ∀ r, round.outcome = .ok r → (round.state.after r).Graded := by
  refine ⟨fun c g s hc => Word.step_eq_ok scan ⟨c, g.toNat⟩ hc rfl s, ?_⟩
  intro opts o input s
  refine ⟨minimizeWith_minimizesBy scan opts o input s, State.graded_initial input, ?_⟩
  intro round hround
  rcases minimizeRoundsWith_cases scan opts o input s with hnone | ⟨_, s1, hrounds⟩
  · rw [hnone] at hround
    cases hround
  · rw [hrounds] at hround
    obtain ⟨hgraded, hstep⟩ := rounds_invariant scan Nat.two_pos s1
      (P := fun st _ => st.Graded) (fun _ _ _ _ hst hstep _ => step_graded hstep hst)
      (State.graded_initial input) round hround
    refine ⟨hgraded, fun r hr => ?_⟩
    rw [hr] at hstep
    exact step_graded hstep hgraded

/-- The granularities 0 and 2^64 - 1, which no search reaches: the first makes no chunk, the
    second makes one of each byte. -/
theorem rounds_untrapped_extremes :
    (Word.step (scanInOrder (Oracle.ofFunction (failsOn [99, 100])) false) [97, 99, 98, 100] 0
      (Session.start ())).map Prod.fst = .ok (.ok (.refined 0)) ∧
    (Word.step (scanInOrder (Oracle.ofFunction (failsOn [99, 100])) false) [97, 99, 98, 100]
      18446744073709551615 (Session.start ())).map Prod.fst =
        .ok (.ok (.reduced .complement 0 ⟨[99, 98, 100], 3⟩)) ∧
    (minimizeRoundsWith (scanInOrder (Oracle.ofFunction (failsOn [99, 100])) false) {}
      (Oracle.ofFunction (failsOn [99, 100])) [97, 99, 98, 100] (Session.start ())).length = 4 ∧
    ∀ round ∈ minimizeRoundsWith (scanInOrder (Oracle.ofFunction (failsOn [99, 100])) false) {}
      (Oracle.ofFunction (failsOn [99, 100])) [97, 99, 98, 100] (Session.start ()),
      round.state.Graded := by
  obtain ⟨huntrapped, hgraded⟩ :=
    rounds_untrapped (scanInOrder (Oracle.ofFunction (failsOn [99, 100])) false)
  refine ⟨?_, ?_, by cbv, fun round hround => ((hgraded _ _ _ _).2.2 round hround).1⟩
  · rw [huntrapped _ _ _ (by decide)]
    cbv
  · rw [huntrapped _ _ _ (by decide)]
    cbv

end DeltaDebug
