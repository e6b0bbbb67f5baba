import DeltaDebug.Proofs.Account
import DeltaDebug.Proofs.Adoption
import Mathlib.Algebra.Group.Nat.Defs
import Mathlib.Data.List.Permutation
import Mathlib.Data.Nat.Log

/-
  The two extremes of a search in order: nothing smaller fails, or everything does.

  If no call sees a failure, the search splits its candidate into twice as many chunks from round to
  round, and into single bytes at last, wherever the doubling goes beyond them. `State.SplitBy` says
  how often it has doubled, and a round takes it one further (`State.SplitBy.exhausted`). As every
  round probes each of its chunks and complements, what the search costs is known exactly
  (`descend_harmless`, `irreducible_cost`). This is so for every oracle, also for one that
  contradicts itself, as long as the calls of this one search were harmless.

  If every call sees a failure, the first complement of each round is adopted, which is the shorter
  half of the candidate, down to nothing (`step_alwaysFails`, `descend_alwaysFails`). So there are
  as many calls as the length of the input has binary digits (`always_failing_collapses`).
-/

namespace DeltaDebug

variable {σ α : Type} {confirm : Bool}

/-- A search in order without a check before it is a descent from the input. -/
theorem minimize_of_descend {o : Oracle σ} {input : Candidate} (hlen : 1 < input.length)
    {s s' : Session σ} {st : State}
    (h : descend (scanInOrder o confirm) (.initial input) Nat.two_pos { s with tally := {} } =
      (.ok st, s')) :
    ∃ s'', minimize ⟨1, confirm, false⟩ o input s = (.ok (s'.result input st.candidate), s'') := by
  have hverify : verify ⟨1, confirm, false⟩ o input { s with tally := {} } =
      (.ok (), { s with tally := {} }) := rfl
  exact ⟨_, minimizeWith_of_search hverify (search_of_descend hlen h)⟩

/-! ## Harmless calls -/

/-- A verdict, and not a failure. -/
def Answer.harmless : Answer → Bool
  | .ok (some v) => v ≠ .fails
  | _ => false

/-- None of the calls saw a failure, was an error or was abandoned. -/
def Harmless (calls : List (Candidate × Answer)) : Prop :=
  ∀ call ∈ calls, Answer.harmless call.2 = true

theorem harmless_append {calls calls' : List (Candidate × Answer)} :
    Harmless (calls ++ calls') ↔ Harmless calls ∧ Harmless calls' := by
  simp only [Harmless, List.forall_mem_append]

/-- The counts after `n` more calls and `k` more refinements that came to nothing; some of the
    verdicts may have been unresolved. -/
def Tally.Wasted (t : Tally) (n k : Nat) (t' : Tally) : Prop :=
  ∃ u, t' = { t with
    invocations := t.invocations + n
    unresolved := u
    granularityIncreases := t.granularityIncreases + k }

namespace Tally.Wasted

variable {t t1 t' : Tally} {n n' k k' : Nat}

theorem refl (t : Tally) : t.Wasted 0 0 t := ⟨t.unresolved, rfl⟩

theorem trans (h : t.Wasted n k t1) (h' : t1.Wasted n' k' t') :
    t.Wasted (n + n') (k + k') t' := by
  obtain ⟨u, rfl⟩ := h
  obtain ⟨u', rfl⟩ := h'
  exact ⟨u', by simp only [Nat.add_assoc]⟩

theorem record (t : Tally) {v : Verdict} (hv : v ≠ .fails) :
    t.Wasted 1 0 (t.record ⟨1, some v⟩) := by
  cases v with
  | fails => exact absurd rfl hv
  | passes => exact ⟨t.unresolved, rfl⟩
  | unresolved => exact ⟨t.unresolved + 1, rfl⟩

theorem refine (t : Tally) : t.Wasted 0 1 t.refine := ⟨t.unresolved, rfl⟩

end Tally.Wasted

namespace Inquiry

/-- A harmless answer is the only one of its inquiry. -/
theorem finding_of_harmless {q : Inquiry confirm} (h : q.first.harmless = true) :
    ∃ v, v ≠ .fails ∧ q.finding = .ok ⟨1, some v⟩ := by
  obtain ⟨c, first, second, hs⟩ := q
  rcases first with e | _ | v
  · cases h
  · cases h
  · have hv : v ≠ .fails := of_decide_eq_true h
    cases second with
    | some a => exact absurd (hs.mp rfl).2 (by simpa using hv)
    | none => exact ⟨v, hv, rfl⟩

theorem harmless_first {qs : List (Inquiry confirm)} (h : Harmless (qs.flatMap Inquiry.calls)) :
    ∀ q ∈ qs, q.first.harmless = true := by
  intro q hq
  exact h _ (List.mem_flatMap.mpr ⟨q, hq, List.mem_cons_self⟩)

end Inquiry

theorem Scanned.of_harmless {build : α → Candidate} {is : List α} {qs : List (Inquiry confirm)}
    {r : Except OracleError (Option α)} (h : Scanned build is qs r)
    (hqs : ∀ q ∈ qs, q.first.harmless = true) : r = .ok none ∧ qs.length = is.length := by
  induction h with
  | nil => exact ⟨rfl, rfl⟩
  | error _ he =>
    obtain ⟨v, _, hfinding⟩ := Inquiry.finding_of_harmless (hqs _ List.mem_cons_self)
    rw [hfinding] at he
    cases he
  | found _ hfails =>
    obtain ⟨v, hv, hfinding⟩ := Inquiry.finding_of_harmless (hqs _ List.mem_cons_self)
    obtain ⟨p, hp, hpf⟩ := hfails
    rw [hfinding] at hp
    cases hp
    exact absurd (Option.some.inj (of_decide_eq_true hpf)) hv
  | next _ _ _ _ ih =>
    obtain ⟨hr, hlen⟩ := ih fun q hq => hqs q (List.mem_cons_of_mem _ hq)
    exact ⟨hr, congrArg Nat.succ hlen⟩

theorem Recorded.wasted {o : Oracle σ} {s s' : Session σ} {qs : List (Inquiry confirm)}
    (h : Recorded o s qs s') (hqs : ∀ q ∈ qs, q.first.harmless = true) :
    s.tally.Wasted qs.length 0 s'.tally := by
  rw [h.tally]
  generalize s.tally = t
  clear h
  induction qs generalizing t with
  | nil => exact .refl t
  | cons q qs ih =>
    obtain ⟨v, hv, hfinding⟩ := Inquiry.finding_of_harmless (hqs q List.mem_cons_self)
    have hrest := ih (fun q' hq' => hqs q' (List.mem_cons_of_mem _ hq')) (t.record ⟨1, some v⟩)
    rw [List.length_cons, Nat.add_comm, List.foldl_cons, hfinding]
    exact (Tally.Wasted.record t hv).trans hrest

/-! ## Nothing fails -/

/-- `P` follows if the calls between the two sessions were harmless. -/
def IfHarmless (s s' : Session σ) (P : Prop) : Prop :=
  ∃ made, s'.calls = s.calls ++ made ∧ (Harmless made → P)

namespace IfHarmless

variable {s s1 s' : Session σ} {P Q : Prop}

theorem imp (h : IfHarmless s s' P) (hpq : P → Q) : IfHarmless s s' Q := by
  obtain ⟨made, hcalls, hp⟩ := h
  exact ⟨made, hcalls, fun hmade => hpq (hp hmade)⟩

theorem trans (h : IfHarmless s s1 P) (h' : IfHarmless s1 s' Q) : IfHarmless s s' (P ∧ Q) := by
  obtain ⟨made, hcalls, hp⟩ := h
  obtain ⟨made', hcalls', hq⟩ := h'
  refine ⟨made ++ made', by rw [hcalls', hcalls, List.append_assoc], fun hboth => ?_⟩
  rw [harmless_append] at hboth
  exact ⟨hp hboth.1, hq hboth.2⟩

theorem of_beginRound {st : State} (h : IfHarmless (s.beginRound st) s' P) :
    IfHarmless s s' P := by
  unfold IfHarmless at h
  rwa [Session.beginRound, Session.calls_note] at h

theorem of_asked {st : State} {r : Except OracleError Step} (h : IfHarmless s s' P)
    (hasked : Harmless (Round.asked ⟨st, s, r, s'⟩)) : P := by
  obtain ⟨made, hcalls, hp⟩ := h
  rw [Round.asked, hcalls, List.drop_left] at hasked
  exact hp hasked

end IfHarmless

/-- A scan in order whose calls are harmless probes all its candidates in vain. -/
theorem scanInOrder_harmless {o : Oracle σ} {n : Nat} {build : Fin n → Candidate}
    {s s' : Session σ} {r : Except OracleError (Option (Fin n))}
    (h : scanInOrder o confirm n build s = (r, s')) :
    IfHarmless s s' (r = .ok none ∧ s.tally.Wasted n 0 s'.tally) := by
  obtain ⟨qs, hs, hr⟩ := scanInOrder_spec h
  refine ⟨_, hr.calls, fun hmade => ?_⟩
  have hqs := Inquiry.harmless_first hmade
  obtain ⟨hnone, hlen⟩ := hs.of_harmless hqs
  rw [List.length_finRange] at hlen
  exact ⟨hnone, hlen ▸ hr.wasted hqs⟩

/-- So does a round with at least two chunks, in both of its scans. -/
theorem step_harmless {o : Oracle σ} {st : State} {s s' : Session σ}
    {r : Except OracleError Step} (h : step (scanInOrder o confirm) st s = (r, s'))
    (hn : 1 < st.parts) :
    IfHarmless s s' (r = .ok st.exhausted ∧ s.tally.Wasted (2 * st.parts) 0 s'.tally) := by
  have hfirst : ∀ {x s1}, scanInOrder o confirm st.parts st.complements (s.beginRound st) =
      (x, s1) → IfHarmless s s1 (x = .ok none ∧ s.tally.Wasted st.parts 0 s1.tally) :=
    fun hc => (scanInOrder_harmless hc).of_beginRound
  have hround := step_rounded (scanInOrder o confirm) st s
  rw [h] at hround
  cases hround with
  | empty hempty =>
    have hle := st.parts_le
    rw [hempty, List.length_nil] at hle
    omega
  | complementError _ hc => exact (hfirst hc).imp fun hscan => nomatch hscan.1
  | complement _ hc => exact (hfirst hc).imp fun hscan => nomatch hscan.1
  | whole _ _ hle => omega
  | chunkError _ hc _ hs =>
    exact ((hfirst hc).trans (scanInOrder_harmless hs)).imp fun hscans => nomatch hscans.2.1
  | chunk _ hc _ hs =>
    exact ((hfirst hc).trans (scanInOrder_harmless hs)).imp fun hscans => nomatch hscans.2.1
  | nothing _ hc _ hs =>
    refine ((hfirst hc).trans (scanInOrder_harmless hs)).imp fun ⟨⟨_, hw⟩, _, hw'⟩ => ?_
    rw [Nat.two_mul]
    exact ⟨rfl, hw.trans hw'⟩

/-- The candidate is split into `2 ^ j` chunks, or into single bytes if it is not long enough; the
    doubling has not gone beyond that. -/
structure State.SplitBy (st : State) (j : Nat) : Prop where
  pos : 0 < j
  le : j ≤ Nat.clog 2 st.candidate.length
  parts : st.parts = min (2 ^ j) st.candidate.length

namespace State.SplitBy

variable {st : State} {j : Nat}

theorem initial {input : Candidate} (hlen : 2 ≤ input.length) :
    (State.initial input).SplitBy 1 :=
  ⟨Nat.one_pos, Nat.clog_pos Nat.one_lt_two hlen, rfl⟩

theorem one_lt_parts (h : st.SplitBy j) : 1 < st.parts := by
  have hpow : 2 ^ 1 ≤ 2 ^ j := Nat.pow_le_pow_right Nat.two_pos h.pos
  have hlen : 2 ^ 0 < st.candidate.length :=
    Nat.pow_lt_of_lt_clog (Nat.lt_of_lt_of_le h.pos h.le)
  rw [h.parts]
  omega

/-- A round in vain doubles the number of chunks, or it was the last, in which they were single
    bytes. -/
theorem exhausted (h : st.SplitBy j) :
    (∃ g, st.exhausted = .refined g ∧ (st.after (.refined g)).SplitBy (j + 1) ∧
      st.parts = 2 ^ j ∧ j < Nat.clog 2 st.candidate.length) ∨
    (st.exhausted = .done ∧ st.parts = st.candidate.length ∧
      j = Nat.clog 2 st.candidate.length) := by
  have hparts := h.parts
  rcases st.exhausted_cases with ⟨hlt, hrefined⟩ | ⟨hfinest, hdone⟩
  · have hpow : 2 ^ j < st.candidate.length := by omega
    have hj : j < Nat.clog 2 st.candidate.length := (Nat.lt_clog_iff_pow_lt Nat.one_lt_two).mpr hpow
    refine Or.inl ⟨_, hrefined, ⟨Nat.succ_pos j, hj, ?_⟩, by omega, hj⟩
    have hsucc := Nat.pow_succ 2 j
    simp only [State.after, State.parts] at hparts ⊢
    omega
  · have hpow : st.candidate.length ≤ 2 ^ j := by omega
    exact Or.inr ⟨hdone, hfinest, Nat.le_antisymm h.le (Nat.clog_le_of_le_pow hpow)⟩

end State.SplitBy

/-- How many probes are left if all of them are harmless, for `len` bytes in `2 ^ j` chunks. -/
def probesLeft (len j : Nat) : Nat := 2 * (2 ^ Nat.clog 2 len - 2 ^ j + len)

theorem probesLeft_last (len : Nat) : probesLeft len (Nat.clog 2 len) = 2 * len := by
  unfold probesLeft
  omega

theorem probesLeft_succ {len j : Nat} (h : j < Nat.clog 2 len) :
    probesLeft len j = 2 * 2 ^ j + probesLeft len (j + 1) := by
  have hpow : 2 ^ (j + 1) ≤ 2 ^ Nat.clog 2 len := Nat.pow_le_pow_right Nat.two_pos h
  have hsucc := Nat.pow_succ 2 j
  unfold probesLeft
  omega

/-- A search with harmless calls only keeps its candidate. -/
theorem descend_harmless {o : Oracle σ} {st : State} {j : Nat} (hj : st.SplitBy j)
    (hg : 0 < st.granularity) (s : Session σ)
    (hasked : ∀ round ∈ rounds (scanInOrder o confirm) st hg s, Harmless round.asked) :
    ∃ st' s', descend (scanInOrder o confirm) st hg s = (.ok st', s') ∧
      st'.candidate = st.candidate ∧
      s.tally.Wasted (probesLeft st.candidate.length j)
        (Nat.clog 2 st.candidate.length - j) s'.tally := by
  induction st, hg, s using descend_induction (scanInOrder o confirm) generalizing j with
  | error st hg s e s' h =>
    rw [rounds_error h] at hasked
    cases ((step_harmless h hj.one_lt_parts).of_asked (hasked _ List.mem_cons_self)).1
  | done st hg s s' h =>
    rw [rounds_done h] at hasked
    obtain ⟨hr, hwasted⟩ :=
      (step_harmless h hj.one_lt_parts).of_asked (hasked _ List.mem_cons_self)
    rcases hj.exhausted with ⟨g, hrefined, _⟩ | ⟨_, hfinest, rfl⟩
    · rw [hrefined] at hr
      cases hr
    · refine ⟨st, s', descend_done h, rfl, ?_⟩
      rw [probesLeft_last, Nat.sub_self, ← hfinest]
      exact hwasted
  | next st hg s r s' h hr ih =>
    rw [rounds_next h hr] at hasked
    obtain ⟨hround, hrest⟩ := List.forall_mem_cons.mp hasked
    obtain ⟨hexhausted, hwasted⟩ := (step_harmless h hj.one_lt_parts).of_asked hround
    rcases hj.exhausted with ⟨g, hrefined, hnext, hparts, hlt⟩ | ⟨hdone, _⟩
    · obtain rfl := (Except.ok.inj hexhausted).trans hrefined
      obtain ⟨st', s'', hdescend, hcandidate, hlast⟩ := ih hnext hrest
      refine ⟨st', s'', (descend_next h hr).trans hdescend, hcandidate, ?_⟩
      have hleft : Nat.clog 2 st.candidate.length - j =
          0 + 1 + (Nat.clog 2 st.candidate.length - (j + 1)) := by omega
      rw [probesLeft_succ hlt, hleft, ← hparts]
      exact (hwasted.trans (.refine s'.tally)).trans hlast
    · exact absurd ((Except.ok.inj hexhausted).trans hdone) hr

/-- **The cost of an irreducible input**, whatever the oracle is. If none of the calls that the
    search in order made for an input of `n ≥ 2` bytes saw a failure, was an error or was abandoned,
    the input is returned as it is, after `⌈log₂ n⌉ - 1` refinements and
    `2 * (2 ^ ⌈log₂ n⌉ - 2 + n)` calls. -/
theorem irreducible_cost (o : Oracle σ) (confirm : Bool) (input : Candidate)
    (hlen : 2 ≤ input.length) (s : Session σ) (made : List (Candidate × Answer))
    (hmade : (minimize ⟨1, confirm, false⟩ o input s).2.calls = s.calls ++ made)
    (hharmless : Harmless made) :
    ∃ r s', minimize ⟨1, confirm, false⟩ o input s = (.ok r, s') ∧
      r.minimized = input ∧
      r.granularityIncreases = Nat.clog 2 input.length - 1 ∧
      r.complementReductions = 0 ∧ r.subsetReductions = 0 ∧ r.cancelledCount = 0 ∧
      r.invocationCount = 2 * (2 ^ Nat.clog 2 input.length - 2 + input.length) := by
  have hrounds : ∀ round ∈ rounds (scanInOrder o confirm) (.initial input) Nat.two_pos
      { s with tally := {} }, Harmless round.asked := by
    obtain ⟨asked, hcalls, _⟩ :=
      calls_minimizeWith ⟨1, confirm, false⟩ o confirm input { s with tally := {} }
    have hall : minimizeRoundsWith (scanInOrder o confirm) ⟨1, confirm, false⟩ o input
        { s with tally := {} } = rounds (scanInOrder o confirm) (.initial input) Nat.two_pos
          { s with tally := {} } := if_pos hlen
    have hsplit := hmade.symm.trans hcalls
    rw [hall, List.append_assoc] at hsplit
    rw [List.append_cancel_left hsplit, harmless_append] at hharmless
    intro round hround call hcall
    exact hharmless.2 call (List.mem_flatMap.mpr ⟨round, hround, hcall⟩)
  obtain ⟨st, s', hdescend, hcandidate, u, htally⟩ :=
    descend_harmless (.initial hlen) Nat.two_pos { s with tally := {} } hrounds
  obtain ⟨s'', hminimize⟩ := minimize_of_descend hlen hdescend
  refine ⟨_, s'', hminimize, hcandidate, ?_⟩
  simp [Session.result, htally, State.initial, probesLeft]

/-- Three bytes take two rounds and ten calls if nothing fails, also if the oracle changes its
    mind. -/
theorem irreducible_cost_replaying :
    ∃ r s', minimize ⟨1, false, false⟩ Oracle.replaying [97, 98, 99]
        (Session.start [.ok (some .passes), .ok (some .unresolved)]) = (.ok r, s') ∧
      r.minimized = [97, 98, 99] ∧ r.granularityIncreases = 1 ∧ r.invocationCount = 10 := by
  have hall : (minimize ⟨1, false, false⟩ Oracle.replaying [97, 98, 99]
      (Session.start [.ok (some .passes), .ok (some .unresolved)])).2.calls.all
        (fun call => Answer.harmless call.2) = true := by
    cbv
  obtain ⟨r, s', h, hsame, hrefinements, _, _, _, hcalls⟩ :=
    irreducible_cost Oracle.replaying false [97, 98, 99] (by decide)
      (Session.start [.ok (some .passes), .ok (some .unresolved)]) _ rfl
      (List.all_eq_true.mp hall)
  exact ⟨r, s', h, hsame, hrefinements, hcalls⟩

/-! ## Everything fails -/

/-- The answers of a target that fails on everything. -/
def alwaysFails (_ : Candidate) : Answer := .ok (some .fails)

/-- The counts after `k` calls each of which led to the adoption of a complement. -/
def Tally.collapse (t : Tally) (k : Nat) : Tally :=
  { t with
    invocations := t.invocations + k
    complementReductions := t.complementReductions + k }

theorem Tally.collapse_collapse (t : Tally) (k k' : Nat) :
    (t.collapse k).collapse k' = t.collapse (k + k') := by
  simp only [Tally.collapse, Nat.add_assoc]

/-- A scan stops at its first candidate. -/
theorem scanInOrder_alwaysFails {o : Oracle σ} (ho : o.AnswersBy alwaysFails) {n : Nat}
    (hn : 0 < n) (build : Fin n → Candidate) (s : Session σ) :
    ∃ s', scanInOrder o false n build s = (.ok (some ⟨0, hn⟩), s') ∧
      s'.tally = { s.tally with invocations := s.tally.invocations + 1 } := by
  obtain ⟨m, rfl⟩ := Nat.exists_eq_succ_of_ne_zero (Nat.ne_of_gt hn)
  obtain ⟨s', hprobe, htally⟩ := probe_eq_settle ho false (build 0) s
  refine ⟨s'.record ⟨1, some .fails⟩, ?_, ?_⟩
  · unfold scanInOrder
    rw [List.finRange_succ, firstFailing, hprobe]
    rfl
  · rw [← htally]
    rfl

/-- The first of at most two chunks is the longer half, so its complement is the shorter one. -/
theorem Partition.length_complement_zero {c : Candidate} (hpos : 0 < c.length) :
    (Partition.complement c 0 (min 2 c.length)).length = c.length / 2 := by
  rcases Nat.lt_or_ge c.length 2 with hshort | hlen
  · have hsum := Partition.length_complement c Nat.zero_lt_one
    have hone : c.length = 1 := by omega
    simp only [Chunk.balanced, hone] at hsum
    rw [hone, show min 2 1 = 1 from rfl]
    omega
  · have hsum := Partition.length_complement c Nat.zero_lt_two
    simp only [Chunk.balanced] at hsum
    rw [Nat.min_eq_left hlen]
    split at hsum <;> omega

/-- A round with two chunks adopts the first complement. -/
theorem step_alwaysFails {o : Oracle σ} (ho : o.AnswersBy alwaysFails) {st : State}
    (htwo : st.granularity = 2) (hne : st.candidate ≠ []) (s : Session σ) :
    ∃ next s', step (scanInOrder o false) st s = (.ok (.reduced .complement 0 next), s') ∧
      next.granularity = 2 ∧ next.candidate.length = st.candidate.length / 2 ∧
      (s'.proceed st (.reduced .complement 0 next)).tally = s.tally.collapse 1 := by
  have hparts : st.parts = min 2 st.candidate.length := by rw [State.parts, htwo]
  have hpos : 0 < st.parts := State.parts_pos (htwo ▸ Nat.two_pos) hne
  obtain ⟨s', hscan, htally⟩ := scanInOrder_alwaysFails ho hpos st.complements (s.beginRound st)
  refine ⟨_, s', (Rounded.complement hne hscan).step_eq, ?_, ?_, ?_⟩
  · exact Nat.max_eq_right (by omega)
  · simp only [State.complements]
    rw [hparts]
    exact Partition.length_complement_zero (List.length_pos_iff.mpr hne)
  · exact congrArg (Tally.adopt · .complement) htally

/-- How many halvings take a number to zero. -/
def binaryDigits (n : Nat) : Nat := if n = 0 then 0 else Nat.log 2 n + 1

theorem binaryDigits_half {n : Nat} (h : 0 < n) :
    binaryDigits n = 1 + binaryDigits (n / 2) := by
  unfold binaryDigits
  rw [if_neg (Nat.ne_of_gt h)]
  rcases Nat.lt_or_ge 1 n with hlt | hle
  · rw [if_neg (by omega), Nat.log_of_one_lt_of_le Nat.one_lt_two hlt]
    omega
  · obtain rfl : n = 1 := by omega
    rfl

/-- A search in halves comes to nothing. -/
theorem descend_alwaysFails {o : Oracle σ} (ho : o.AnswersBy alwaysFails) {st : State}
    (htwo : st.granularity = 2) (hg : 0 < st.granularity) (s : Session σ) :
    ∃ st' s', descend (scanInOrder o false) st hg s = (.ok st', s') ∧ st'.candidate = [] ∧
      s'.tally = s.tally.collapse (binaryDigits st.candidate.length) := by
  induction hn : st.candidate.length using Nat.strong_induction_on generalizing st s with
  | _ n ih =>
    by_cases hempty : st.candidate = []
    · refine ⟨st, s, descend_done (Rounded.empty hempty).step_eq, hempty, ?_⟩
      rw [← hn, hempty]
      rfl
    · obtain ⟨next, s', hstep, hnext, hhalf, htally⟩ := step_alwaysFails ho htwo hempty s
      have hpos : 0 < n := hn ▸ List.length_pos_iff.mpr hempty
      rw [hn] at hhalf
      obtain ⟨st', s'', hdescend, hnothing, hlast⟩ :=
        ih (n / 2) (Nat.div_lt_self hpos Nat.one_lt_two) hnext (hnext ▸ Nat.two_pos)
          (s'.proceed st (.reduced .complement 0 next)) hhalf
      refine ⟨st', s'', (descend_next hstep nofun).trans hdescend, hnothing, ?_⟩
      rw [hlast, htally, Tally.collapse_collapse, binaryDigits_half hpos]

/-- **Everything collapses** if all candidates fail. The search in order for an input of `n ≥ 2`
    bytes adopts the first candidate of every round, and comes to the empty candidate after
    `⌊log₂ n⌋ + 1` calls. -/
theorem always_failing_collapses (o : Oracle σ) (ho : o.AnswersBy alwaysFails)
    (input : Candidate) (hlen : 2 ≤ input.length) (s : Session σ) :
    ∃ r s', minimize ⟨1, false, false⟩ o input s = (.ok r, s') ∧
      r.minimized = [] ∧
      r.invocationCount = Nat.log 2 input.length + 1 ∧
      r.complementReductions = Nat.log 2 input.length + 1 ∧
      r.subsetReductions = 0 ∧ r.granularityIncreases = 0 ∧
      r.unresolvedCount = 0 ∧ r.cancelledCount = 0 := by
  obtain ⟨st, s', hdescend, hnothing, htally⟩ :=
    descend_alwaysFails ho (rfl : (State.initial input).granularity = 2) Nat.two_pos
      { s with tally := {} }
  obtain ⟨s'', hminimize⟩ := minimize_of_descend hlen hdescend
  have hdigits : binaryDigits input.length = Nat.log 2 input.length + 1 := if_neg (by omega)
  refine ⟨_, s'', hminimize, hnothing, ?_⟩
  simp [Session.result, htally, State.initial, Tally.collapse, hdigits]

/-- Five bytes, two bytes, one byte, nothing. -/
theorem always_failing_collapses_five :
    ∃ r s', minimize ⟨1, false, false⟩ (Oracle.ofFunction alwaysFails) [97, 98, 99, 100, 101]
        (Session.start ()) = (.ok r, s') ∧
      r.minimized = [] ∧ r.invocationCount = 3 ∧ r.complementReductions = 3 := by
  obtain ⟨r, s', h, hnothing, hcalls, hreductions, _⟩ :=
    always_failing_collapses (Oracle.ofFunction alwaysFails) (Oracle.answersBy_ofFunction _)
      [97, 98, 99, 100, 101] (by decide) (Session.start ())
  exact ⟨r, s', h, hnothing, hcalls, hreductions⟩

end DeltaDebug
