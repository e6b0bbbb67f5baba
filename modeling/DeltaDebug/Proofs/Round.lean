import DeltaDebug.Search.Round
import DeltaDebug.Proofs.Partition
import DeltaDebug.Proofs.Scan

/-
  One round. `Rounded` lists all that a round can come to, with the outcomes of its one or two
  scans (`step_rounded`); everything else about rounds is read off from it.

  A round that ends the search on a candidate that is not empty split it into single bytes, and
  its scans found nothing (`Rounded.of_done`). In a round in order every candidate that is asked
  about is a shorter sublist of the candidate at hand, and the candidate that is adopted is the
  last one asked about (`step_inquired`). Two scans that always have the same outcome make the same
  rounds (`step_agree`).
-/

namespace DeltaDebug

variable {σ τ : Type}

namespace State

/-- The candidates of the first scan of a round. -/
def complements (st : State) (i : Fin st.parts) : Candidate :=
  Partition.complement st.candidate i st.parts

/-- The candidates of the second scan of a round. -/
def chunks (st : State) (i : Fin st.parts) : Candidate :=
  Partition.chunk st.candidate i st.parts

end State

/-- The session in which the first scan of a round starts. -/
def Session.beginRound (s : Session σ) (st : State) : Session σ :=
  s.note (.probingRound st.candidate.length st.parts)

/-- All that a round can come to. -/
inductive Rounded (scan : Scan σ) (st : State) (s : Session σ) :
    Except OracleError Step × Session σ → Prop
  | empty (h : st.candidate = []) : Rounded scan st s (.ok .done, s)
  | complementError {e : OracleError} {s' : Session σ} (h : st.candidate ≠ [])
      (hc : scan st.parts st.complements (s.beginRound st) = (.error e, s')) :
      Rounded scan st s (.error e, s')
  | complement {i : Fin st.parts} {s' : Session σ} (h : st.candidate ≠ [])
      (hc : scan st.parts st.complements (s.beginRound st) = (.ok (some i), s')) :
      Rounded scan st s
        (.ok (.reduced .complement i ⟨st.complements i, max (st.parts - 1) 2⟩), s')
  | whole {s' : Session σ} (h : st.candidate ≠ [])
      (hc : scan st.parts st.complements (s.beginRound st) = (.ok none, s'))
      (hn : st.parts ≤ 1) : Rounded scan st s (.ok st.exhausted, s')
  | chunkError {e : OracleError} {s1 s' : Session σ} (h : st.candidate ≠ [])
      (hc : scan st.parts st.complements (s.beginRound st) = (.ok none, s1))
      (hn : 1 < st.parts) (hs : scan st.parts st.chunks s1 = (.error e, s')) :
      Rounded scan st s (.error e, s')
  | chunk {i : Fin st.parts} {s1 s' : Session σ} (h : st.candidate ≠ [])
      (hc : scan st.parts st.complements (s.beginRound st) = (.ok none, s1))
      (hn : 1 < st.parts) (hs : scan st.parts st.chunks s1 = (.ok (some i), s')) :
      Rounded scan st s (.ok (.reduced .subset i ⟨st.chunks i, 2⟩), s')
  | nothing {s1 s' : Session σ} (h : st.candidate ≠ [])
      (hc : scan st.parts st.complements (s.beginRound st) = (.ok none, s1))
      (hn : 1 < st.parts) (hs : scan st.parts st.chunks s1 = (.ok none, s')) :
      Rounded scan st s (.ok st.exhausted, s')

theorem step_rounded (scan : Scan σ) (st : State) (s : Session σ) :
    Rounded scan st s (step scan st s) := by
  unfold step
  split
  case isTrue h => exact .empty (List.length_eq_zero_iff.mp h)
  case isFalse h =>
    have hne : st.candidate ≠ [] := fun he => h (by rw [he]; rfl)
    dsimp only
    split
    case h_1 e s' hc => exact .complementError hne hc
    case h_2 i s' hc => exact .complement hne hc
    case h_3 s1 hc =>
      unfold tryChunks
      split
      case isFalse hn => exact .whole hne hc (Nat.le_of_not_lt hn)
      case isTrue hn =>
        split
        case h_1 e s' hs => exact .chunkError hne hc hn hs
        case h_2 i s' hs => exact .chunk hne hc hn hs
        case h_3 s' hs => exact .nothing hne hc hn hs

theorem step_of_ne_nil {scan : Scan σ} {st : State} (s : Session σ) (hne : st.candidate ≠ []) :
    step scan st s =
      match scan st.parts st.complements (s.beginRound st) with
      | (.error e, s) => (.error e, s)
      | (.ok (some i), s) =>
        (.ok (.reduced .complement i ⟨st.complements i, max (st.parts - 1) 2⟩), s)
      | (.ok none, s) => tryChunks scan st s :=
  if_neg fun h => hne (List.length_eq_zero_iff.mp h)

theorem tryChunks_of_one_lt {scan : Scan σ} {st : State} (s : Session σ) (hn : 1 < st.parts) :
    tryChunks scan st s =
      match scan st.parts st.chunks s with
      | (.error e, s) => (.error e, s)
      | (.ok (some i), s) => (.ok (.reduced .subset i ⟨st.chunks i, 2⟩), s)
      | (.ok none, s) => (.ok st.exhausted, s) :=
  if_pos hn

/-- What a round can come to by the list is what it comes to. -/
theorem Rounded.step_eq {scan : Scan σ} {st : State} {s : Session σ}
    {x : Except OracleError Step × Session σ} (h : Rounded scan st s x) :
    step scan st s = x := by
  cases h with
  | empty h => exact if_pos (List.length_eq_zero_iff.mpr h)
  | complementError hne hc => rw [step_of_ne_nil s hne, hc]
  | complement hne hc => rw [step_of_ne_nil s hne, hc]
  | whole hne hc hn =>
    rw [step_of_ne_nil s hne, hc]
    exact if_neg (Nat.not_lt.mpr hn)
  | chunkError hne hc hn hs =>
    rw [step_of_ne_nil s hne, hc]
    dsimp only
    rw [tryChunks_of_one_lt _ hn, hs]
  | chunk hne hc hn hs =>
    rw [step_of_ne_nil s hne, hc]
    dsimp only
    rw [tryChunks_of_one_lt _ hn, hs]
  | nothing hne hc hn hs =>
    rw [step_of_ne_nil s hne, hc]
    dsimp only
    rw [tryChunks_of_one_lt _ hn, hs]

/-- All that a round without an error can come to: nothing was to be done, a complement or a chunk
    failed, or all candidates of the round were probed in vain. -/
theorem step_ok_cases {scan : Scan σ} {st : State} {s s' : Session σ} {r : Step}
    (h : step scan st s = (.ok r, s')) :
    (st.candidate = [] ∧ r = .done ∧ s' = s) ∨
    (∃ i, scan st.parts st.complements (s.beginRound st) = (.ok (some i), s') ∧
      r = .reduced .complement i ⟨st.complements i, max (st.parts - 1) 2⟩) ∨
    (∃ i s1, scan st.parts st.complements (s.beginRound st) = (.ok none, s1) ∧
      1 < st.parts ∧ scan st.parts st.chunks s1 = (.ok (some i), s') ∧
      r = .reduced .subset i ⟨st.chunks i, 2⟩) ∨
    (st.candidate ≠ [] ∧
      ∃ s1, scan st.parts st.complements (s.beginRound st) = (.ok none, s1) ∧
      (if 1 < st.parts then scan st.parts st.chunks s1 = (.ok none, s') else s' = s1) ∧
      r = st.exhausted) := by
  have hround := step_rounded scan st s
  rw [h] at hround
  generalize hx : ((.ok r, s') : Except OracleError Step × Session σ) = x at hround
  cases hround with
  | complementError => cases hx
  | chunkError => cases hx
  | empty he => cases hx; exact Or.inl ⟨he, rfl, rfl⟩
  | complement _ hc => cases hx; exact Or.inr (Or.inl ⟨_, hc, rfl⟩)
  | chunk _ hc hn hs => cases hx; exact Or.inr (Or.inr (Or.inl ⟨_, _, hc, hn, hs, rfl⟩))
  | whole hne hc hn =>
    cases hx
    refine Or.inr (Or.inr (Or.inr ⟨hne, _, hc, ?_, rfl⟩))
    rw [if_neg (by omega)]
  | nothing hne hc hn hs =>
    cases hx
    refine Or.inr (Or.inr (Or.inr ⟨hne, _, hc, ?_, rfl⟩))
    rw [if_pos hn]
    exact hs

theorem State.parts_pos {st : State} (hg : 0 < st.granularity) (hne : st.candidate ≠ []) :
    0 < st.parts := by
  have hlen := List.length_pos_iff.mpr hne
  unfold State.parts
  omega

theorem State.one_lt_parts {st : State} (htwo : 2 ≤ st.granularity)
    (hlen : 2 ≤ st.candidate.length) : 1 < st.parts := by
  unfold State.parts
  omega

/-- A round that finds nothing refines the split, unless it is the finest. -/
theorem State.exhausted_cases (st : State) :
    (st.parts < st.candidate.length ∧
      st.exhausted = .refined (min (2 * st.parts) st.candidate.length)) ∨
    (st.parts = st.candidate.length ∧ st.exhausted = .done) := by
  have hle := st.parts_le
  unfold State.exhausted
  split
  case isTrue hlt => exact Or.inl ⟨hlt, rfl⟩
  case isFalse hge => exact Or.inr ⟨Nat.le_antisymm hle (Nat.le_of_not_lt hge), rfl⟩

/-! ## The candidate after a round -/

theorem State.after_exhausted (st : State) :
    (st.after st.exhausted).candidate = st.candidate := by
  unfold State.exhausted
  split <;> rfl

/-- A round keeps its candidate, or goes on with what one of its scans found. -/
theorem step_candidate {scan : Scan σ} {st : State} {s s' : Session σ} {r : Step}
    (h : step scan st s = (.ok r, s')) :
    (st.after r).candidate = st.candidate ∨
      (∃ i s1, scan st.parts st.complements (s.beginRound st) = (.ok (some i), s1) ∧
        (st.after r).candidate = st.complements i) ∨
      ∃ i s1 s2, scan st.parts st.chunks s1 = (.ok (some i), s2) ∧
        (st.after r).candidate = st.chunks i := by
  obtain ⟨_, rfl, _⟩ | ⟨i, hc, rfl⟩ | ⟨i, _, _, _, hs, rfl⟩ | ⟨_, _, _, _, rfl⟩ := step_ok_cases h
  · exact Or.inl rfl
  · exact Or.inr (Or.inl ⟨i, _, hc, rfl⟩)
  · exact Or.inr (Or.inr ⟨i, _, _, hs, rfl⟩)
  · exact Or.inl st.after_exhausted

/-- If a search asks for two chunks or more, it goes on to. -/
theorem step_granularity_two {scan : Scan σ} {st : State} {s s' : Session σ} {r : Step}
    (h : step scan st s = (.ok r, s')) (htwo : 2 ≤ st.granularity) :
    2 ≤ (st.after r).granularity := by
  obtain ⟨_, rfl, _⟩ | ⟨i, _, rfl⟩ | ⟨i, _, _, _, _, rfl⟩ | ⟨_, _, _, _, hr⟩ := step_ok_cases h
  · exact htwo
  · exact Nat.le_max_right _ _
  · exact Nat.le_refl 2
  · cases r with
    | done => exact htwo
    | reduced phase i next => exact absurd hr.symm State.exhausted_ne_reduced
    | refined g =>
      obtain ⟨hlt, _⟩ := step_refined h (Nat.lt_of_lt_of_le Nat.two_pos htwo)
      exact Nat.le_trans htwo (Nat.le_of_lt hlt)

/-! ## The round that ends the search -/

theorem State.exhausted_done {st : State} (h : st.exhausted = .done) :
    st.parts = st.candidate.length := by
  rcases st.exhausted_cases with ⟨_, he⟩ | ⟨hparts, _⟩
  · rw [he] at h
    cases h
  · exact hparts

/-- If a round ends the search on a candidate that is not empty, its chunks were single bytes, and
    neither of its scans found anything. -/
theorem Rounded.of_done {scan : Scan σ} {st : State} {s s' : Session σ}
    (h : Rounded scan st s (.ok .done, s')) (hne : st.candidate ≠ []) :
    st.parts = st.candidate.length ∧
      ∃ s1, scan st.parts st.complements (s.beginRound st) = (.ok none, s1) ∧
        if 2 ≤ st.candidate.length then scan st.parts st.chunks s1 = (.ok none, s')
        else s1 = s' := by
  generalize hr : ((.ok .done, s') : Except OracleError Step × Session σ) = r at h
  cases h with
  | empty h => exact absurd h hne
  | complementError => cases hr
  | complement => cases hr
  | chunkError => cases hr
  | chunk => cases hr
  | whole _ hc hn =>
    injection hr with hr hs'
    have hparts := State.exhausted_done (Except.ok.inj hr).symm
    refine ⟨hparts, _, hc, ?_⟩
    rw [if_neg (by omega), hs']
  | nothing _ hc hn hs =>
    injection hr with hr hs'
    have hparts := State.exhausted_done (Except.ok.inj hr).symm
    refine ⟨hparts, _, hc, ?_⟩
    rw [if_pos (by omega), hs']
    exact hs

/-! ## Rounds in order -/

section InOrder

variable {o : Oracle σ} {confirm : Bool} {st : State} {qs : List (Inquiry confirm)}

theorem scanInOrder_spec {n : Nat} {build : Fin n → Candidate} {s s' : Session σ}
    {r : Except OracleError (Option (Fin n))}
    (h : scanInOrder o confirm n build s = (r, s')) :
    ∃ qs : List (Inquiry confirm), Scanned build (List.finRange n) qs r ∧ Recorded o s qs s' := by
  obtain ⟨qs, hs, hr⟩ := firstFailing_scanned o confirm build (List.finRange n) s
  unfold scanInOrder at h
  rw [h] at hs hr
  exact ⟨qs, hs, hr⟩

theorem Recorded.of_beginRound {s s' : Session σ} (h : Recorded o (s.beginRound st) qs s') :
    Recorded o s qs s' := by
  refine ⟨?_, h.gives, h.tally⟩
  rw [h.calls, Session.beginRound, Session.calls_note]

/-- The inquiries are about candidates that can be made from `c` by deleting bytes, at least
    one. -/
def Smaller (c : Candidate) (qs : List (Inquiry confirm)) : Prop :=
  ∀ q ∈ qs, q.candidate.Sublist c ∧ q.candidate.length < c.length

theorem smaller_append {c : Candidate} {qs qs' : List (Inquiry confirm)} (h : Smaller c qs)
    (h' : Smaller c qs') : Smaller c (qs ++ qs') := by
  intro q hq
  rcases List.mem_append.mp hq with hq | hq
  · exact h q hq
  · exact h' q hq

theorem smaller_complements {is : List (Fin st.parts)}
    {r : Except OracleError (Option (Fin st.parts))} (h : Scanned st.complements is qs r) :
    Smaller st.candidate qs := by
  intro q hq
  obtain ⟨i, _, he⟩ := h.candidate_mem q hq
  rw [he]
  exact ⟨Partition.complement_sublist _ _ _, Partition.length_complement_lt st.parts_le i.isLt⟩

theorem smaller_chunks {is : List (Fin st.parts)}
    {r : Except OracleError (Option (Fin st.parts))} (hn : 1 < st.parts)
    (h : Scanned st.chunks is qs r) : Smaller st.candidate qs := by
  intro q hq
  obtain ⟨i, _, he⟩ := h.candidate_mem q hq
  rw [he]
  exact ⟨Partition.chunk_sublist _ _ _, Partition.length_chunk_lt st.parts_le i.isLt hn⟩

/-- What the inquiries of a round in order have to do with what the round comes to. -/
structure Inquired (st : State) (qs : List (Inquiry confirm)) (r : Except OracleError Step) :
    Prop where
  smaller : Smaller st.candidate qs
  adopted : ∀ phase i next, r = .ok (.reduced phase i next) →
    ∃ earlier q, qs = earlier ++ [q] ∧ q.candidate = next.candidate ∧ q.Fails
  ended : r = .ok .done → st.candidate ≠ [] →
    qs.map Inquiry.candidate = Partition.deletions st.candidate ++
      (if 2 ≤ st.candidate.length then Partition.singles st.candidate else []) ∧
    ∀ q ∈ qs, ¬ q.Fails

/-- A round that comes to nothing is no reduction; if it ends the search, then on single bytes. -/
theorem inquired_exhausted (hsmaller : Smaller st.candidate qs)
    (hnone : ∀ q ∈ qs, ¬ q.Fails)
    (hmap : st.parts = st.candidate.length → qs.map Inquiry.candidate =
      Partition.deletions st.candidate ++
        (if 2 ≤ st.candidate.length then Partition.singles st.candidate else [])) :
    Inquired st qs (.ok st.exhausted) := by
  refine ⟨hsmaller, ?_, ?_⟩
  · intro phase i next h
    exact absurd (Except.ok.inj h) State.exhausted_ne_reduced
  · intro h _
    exact ⟨hmap (State.exhausted_done (Except.ok.inj h)), hnone⟩

end InOrder

/-- The inquiries of a round in order. -/
theorem step_inquired (o : Oracle σ) (confirm : Bool) (st : State) (s : Session σ) :
    ∃ qs : List (Inquiry confirm), Recorded o s qs (step (scanInOrder o confirm) st s).2 ∧
      Inquired st qs (step (scanInOrder o confirm) st s).1 := by
  have hround := step_rounded (scanInOrder o confirm) st s
  generalize step (scanInOrder o confirm) st s = r at hround
  cases hround with
  | empty h =>
    refine ⟨[], .nil o s, ?_, nofun, fun _ hne => absurd h hne⟩
    intro q hq
    cases hq
  | complementError _ hc =>
    obtain ⟨qs, hs, hr⟩ := scanInOrder_spec hc
    exact ⟨qs, hr.of_beginRound, smaller_complements hs, nofun, nofun⟩
  | complement _ hc =>
    obtain ⟨qs, hs, hr⟩ := scanInOrder_spec hc
    refine ⟨qs, hr.of_beginRound, smaller_complements hs, ?_, nofun⟩
    intro phase i next h
    cases h
    exact hs.last_fails
  | whole hne hc hn =>
    obtain ⟨qs, hs, hr⟩ := scanInOrder_spec hc
    obtain ⟨hmap, hnone⟩ := hs.exhausted
    refine ⟨qs, hr.of_beginRound, inquired_exhausted (smaller_complements hs) hnone fun hp => ?_⟩
    rw [if_neg (by omega), List.append_nil, hmap]
    exact Partition.map_complement_finest st.candidate hp
  | chunkError _ hc hn hs =>
    obtain ⟨qs, hs1, hr1⟩ := scanInOrder_spec hc
    obtain ⟨qs', hs2, hr2⟩ := scanInOrder_spec hs
    exact ⟨qs ++ qs', hr1.of_beginRound.append hr2,
      smaller_append (smaller_complements hs1) (smaller_chunks hn hs2), nofun, nofun⟩
  | chunk _ hc hn hs =>
    obtain ⟨qs, hs1, hr1⟩ := scanInOrder_spec hc
    obtain ⟨qs', hs2, hr2⟩ := scanInOrder_spec hs
    refine ⟨qs ++ qs', hr1.of_beginRound.append hr2,
      smaller_append (smaller_complements hs1) (smaller_chunks hn hs2), ?_, nofun⟩
    intro phase i next h
    cases h
    obtain ⟨earlier, q, rfl, hq⟩ := hs2.last_fails
    exact ⟨qs ++ earlier, q, (List.append_assoc ..).symm, hq⟩
  | nothing _ hc hn hs =>
    obtain ⟨qs, hs1, hr1⟩ := scanInOrder_spec hc
    obtain ⟨qs', hs2, hr2⟩ := scanInOrder_spec hs
    obtain ⟨hmap1, hnone1⟩ := hs1.exhausted
    obtain ⟨hmap2, hnone2⟩ := hs2.exhausted
    refine ⟨qs ++ qs', hr1.of_beginRound.append hr2, inquired_exhausted
      (smaller_append (smaller_complements hs1) (smaller_chunks hn hs2)) ?_ fun hp => ?_⟩
    · intro q hq
      rcases List.mem_append.mp hq with hq | hq
      · exact hnone1 q hq
      · exact hnone2 q hq
    · rw [if_pos (by omega), List.map_append, hmap1, hmap2]
      exact congr (congrArg _ (Partition.map_complement_finest st.candidate hp))
        (Partition.map_chunk_finest st.candidate hp)

/-! ## Scans with the same outcomes -/

/-- The two scans have the same outcome on the same candidates, whatever happened before. -/
def Scan.Agree (scan : Scan σ) (scan' : Scan τ) : Prop :=
  ∀ (count : Nat) (build : Fin count → Candidate) (s : Session σ) (t : Session τ),
    (scan count build s).1 = (scan' count build t).1

theorem Scan.Decides.agree {f : Candidate → Answer} {scan : Scan σ} {scan' : Scan τ}
    (h : scan.Decides f) (h' : scan'.Decides f) : scan.Agree scan' := by
  intro count build s t
  rw [h, h']

theorem tryChunks_agree {scan : Scan σ} {scan' : Scan τ} (h : scan.Agree scan') (st : State)
    (s : Session σ) (t : Session τ) : (tryChunks scan st s).1 = (tryChunks scan' st t).1 := by
  have hs := h st.parts (fun i => Partition.chunk st.candidate i st.parts) s t
  unfold tryChunks
  split
  · generalize scan st.parts (fun i => Partition.chunk st.candidate i st.parts) s = x at hs ⊢
    generalize scan' st.parts (fun i => Partition.chunk st.candidate i st.parts) t = y at hs ⊢
    obtain ⟨r, s'⟩ := x
    obtain ⟨r', t'⟩ := y
    obtain rfl : r = r' := hs
    rcases r with e | _ | i
    · rfl
    · rfl
    · rfl
  · rfl

/-- Such scans make the same rounds. -/
theorem step_agree {scan : Scan σ} {scan' : Scan τ} (h : scan.Agree scan') (st : State)
    (s : Session σ) (t : Session τ) : (step scan st s).1 = (step scan' st t).1 := by
  have hs := h st.parts (fun i => Partition.complement st.candidate i st.parts)
    (s.note (.probingRound st.candidate.length st.parts))
    (t.note (.probingRound st.candidate.length st.parts))
  unfold step
  split
  · rfl
  · dsimp only
    generalize scan st.parts (fun i => Partition.complement st.candidate i st.parts)
      (s.note (.probingRound st.candidate.length st.parts)) = x at hs ⊢
    generalize scan' st.parts (fun i => Partition.complement st.candidate i st.parts)
      (t.note (.probingRound st.candidate.length st.parts)) = y at hs ⊢
    obtain ⟨r, s'⟩ := x
    obtain ⟨r', t'⟩ := y
    obtain rfl : r = r' := hs
    rcases r with e | _ | i
    · rfl
    · exact tryChunks_agree h st s' t'
    · rfl

/-- A round leaves these counts to the search. -/
theorem progress_step {scan : Scan σ} (h : scan.KeepsProgress) (st : State) (s : Session σ) :
    (step scan st s).2.tally.progress = s.tally.progress := by
  have hfirst : ∀ {r s'}, scan st.parts st.complements (s.beginRound st) = (r, s') →
      s'.tally.progress = s.tally.progress := by
    intro r s' hc
    have hp := h st.parts st.complements (s.beginRound st)
    rw [hc] at hp
    exact hp
  have hsecond : ∀ {r s1 s'}, scan st.parts st.chunks s1 = (r, s') →
      s'.tally.progress = s1.tally.progress := by
    intro r s1 s' hs
    have hp := h st.parts st.chunks s1
    rw [hs] at hp
    exact hp
  have hround := step_rounded scan st s
  generalize step scan st s = r at hround
  cases hround with
  | empty _ => rfl
  | complementError _ hc => exact hfirst hc
  | complement _ hc => exact hfirst hc
  | whole _ hc _ => exact hfirst hc
  | chunkError _ hc _ hs => exact (hsecond hs).trans (hfirst hc)
  | chunk _ hc _ hs => exact (hsecond hs).trans (hfirst hc)
  | nothing _ hc _ hs => exact (hsecond hs).trans (hfirst hc)

end DeltaDebug
