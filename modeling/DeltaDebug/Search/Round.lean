import DeltaDebug.Search.Probe

/-
  One round of a search. The candidate is split into balanced chunks; every complement of a chunk
  is tried, then every chunk alone. If nothing fails, the next round has more chunks, until they
  are single bytes.
-/

namespace DeltaDebug

variable {σ : Type}

/-- The number of chunks of a round: the granularity, but no more than there are bytes. -/
def State.parts (st : State) : Nat := min st.granularity st.candidate.length

/-- What follows when nothing smaller fails. -/
def State.exhausted (st : State) : Step :=
  if st.parts < st.candidate.length then .refined (min (2 * st.parts) st.candidate.length)
  else .done

/-- The chunks alone are tried; a single chunk would be the candidate itself. -/
def tryChunks (scan : Scan σ) (st : State) (s : Session σ) : Except OracleError Step × Session σ :=
  if 1 < st.parts then
    match scan st.parts (fun i => Partition.chunk st.candidate i st.parts) s with
    | (.error e, s) => (.error e, s)
    | (.ok (some i), s) =>
      (.ok (.reduced .subset i ⟨Partition.chunk st.candidate i st.parts, 2⟩), s)
    | (.ok none, s) => (.ok st.exhausted, s)
  else (.ok st.exhausted, s)

/-- One round. The empty candidate needs none. -/
def step (scan : Scan σ) (st : State) (s : Session σ) : Except OracleError Step × Session σ :=
  if st.candidate.length = 0 then (.ok .done, s)
  else
    let s := s.note (.probingRound st.candidate.length st.parts)
    match scan st.parts (fun i => Partition.complement st.candidate i st.parts) s with
    | (.error e, s) => (.error e, s)
    | (.ok (some i), s) =>
      (.ok (.reduced .complement i
        ⟨Partition.complement st.candidate i st.parts, max (st.parts - 1) 2⟩), s)
    | (.ok none, s) => tryChunks scan st s

theorem State.parts_le (st : State) : st.parts ≤ st.candidate.length := Nat.min_le_right ..

/-- Chunks are only refined to a larger number, which stays within the candidate. -/
theorem State.exhausted_refined {st : State} {g : Nat} (h : st.exhausted = .refined g)
    (hg : 0 < st.granularity) : st.granularity < g ∧ g ≤ st.candidate.length := by
  unfold exhausted at h
  split at h
  · cases h
    simp only [parts] at *
    omega
  · cases h

theorem State.exhausted_ne_reduced {st : State} {p : Phase} {i : Nat} {next : State} :
    st.exhausted ≠ .reduced p i next := by
  simp only [exhausted]
  split <;> simp

theorem tryChunks_reduced {scan : Scan σ} {st : State} {s s' : Session σ} {p : Phase} {i : Nat}
    {next : State} (h : tryChunks scan st s = (.ok (.reduced p i next), s')) :
    next.candidate.length < st.candidate.length ∧ 0 < next.granularity := by
  simp only [tryChunks] at h
  split at h
  case isTrue hn =>
    split at h
    · cases h
    · cases h
      exact ⟨Partition.length_chunk_lt st.parts_le (Fin.isLt _) hn, by simp⟩
    · injection h with h _
      injection h with h
      exact absurd h State.exhausted_ne_reduced
  case isFalse =>
    injection h with h _
    injection h with h
    exact absurd h State.exhausted_ne_reduced

theorem tryChunks_refined {scan : Scan σ} {st : State} {s s' : Session σ} {g : Nat}
    (h : tryChunks scan st s = (.ok (.refined g), s')) (hg : 0 < st.granularity) :
    st.granularity < g ∧ g ≤ st.candidate.length := by
  simp only [tryChunks] at h
  split at h
  · split at h
    · cases h
    · cases h
    · injection h with h _
      injection h with h
      exact State.exhausted_refined h hg
  · injection h with h _
    injection h with h
    exact State.exhausted_refined h hg

/-- A reduction makes the candidate shorter. -/
theorem step_reduced {scan : Scan σ} {st : State} {s s' : Session σ} {p : Phase} {i : Nat}
    {next : State} (h : step scan st s = (.ok (.reduced p i next), s')) :
    next.candidate.length < st.candidate.length ∧ 0 < next.granularity := by
  simp only [step] at h
  split at h
  · cases h
  · split at h
    · cases h
    · cases h
      exact ⟨Partition.length_complement_lt st.parts_le (Fin.isLt _),
        Nat.lt_of_lt_of_le Nat.two_pos (Nat.le_max_right ..)⟩
    · exact tryChunks_reduced h

/-- A refinement raises the granularity, up to the length of the candidate. -/
theorem step_refined {scan : Scan σ} {st : State} {s s' : Session σ} {g : Nat}
    (h : step scan st s = (.ok (.refined g), s')) (hg : 0 < st.granularity) :
    st.granularity < g ∧ g ≤ st.candidate.length := by
  simp only [step] at h
  split at h
  · cases h
  · split at h
    · cases h
    · cases h
    · exact tryChunks_refined h hg

end DeltaDebug
