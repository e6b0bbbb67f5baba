import DeltaDebug.Partition

/-
  What chunks and complements are made of. Both keep the order of the bytes they are cut from, so
  both are sublists of the candidate (`complement_sublist`, `chunk_sublist`). In the finest split
  there is one chunk per byte: deleting chunk `i` deletes byte `i` (`complement_finest`), and
  chunk `i` alone is byte `i` alone (`chunk_finest`).

  The sizes are bounded by what covers the candidate: if `n` pieces of `w` bytes do, no chunk is
  larger than `w`, and `n - 1` pieces do for what is left without a chunk.
-/

namespace DeltaDebug.Partition

/-! ## Sublists -/

/-- Deleting a chunk keeps the other bytes in their order. -/
theorem complement_sublist (c : Candidate) (i n : Nat) : (complement c i n).Sublist c := by
  have hle : (Chunk.balanced c.length n i).start ≤ (Chunk.balanced c.length n i).stop :=
    Nat.le_add_right _ _
  have hdrop := List.drop_sublist_drop_left c hle
  have happ := hdrop.append_left (c.take (Chunk.balanced c.length n i).start)
  rw [List.take_append_drop] at happ
  exact happ

/-- A chunk keeps its bytes in their order. -/
theorem chunk_sublist (c : Candidate) (i n : Nat) : (chunk c i n).Sublist c :=
  (List.take_sublist _ _).trans (List.drop_sublist _ _)

/-! ## Sizes -/

/-- If `n` pieces of `w` bytes cover the bytes, no chunk of the split in `n` is larger than `w`. -/
theorem balanced_len_le {len n w : Nat} (i : Nat) (hn : 0 < n) (h : len ≤ n * w) :
    (Chunk.balanced len n i).len ≤ w := by
  have hd := Nat.div_add_mod len n
  simp only [Chunk.balanced]
  split
  case isTrue hi =>
    have hlt : n * (len / n) < n * w := by omega
    exact Nat.lt_of_mul_lt_mul_left hlt
  case isFalse =>
    have hle : n * (len / n) ≤ n * w := by omega
    exact Nat.le_of_mul_le_mul_left hle hn

theorem mul_eq_pred_mul_add {n : Nat} (hn : 0 < n) (w : Nat) : n * w = (n - 1) * w + w := by
  rw [← Nat.succ_mul, Nat.succ_eq_add_one, Nat.sub_add_cancel hn]

/-- What is left when a chunk is deleted is covered by one piece less. -/
theorem length_complement_le {c : Candidate} {i n w : Nat} (hi : i < n)
    (h : c.length ≤ n * w) : (complement c i n).length ≤ (n - 1) * w := by
  have hn : 0 < n := by omega
  have hlen := length_complement c hi
  have hd := Nat.div_add_mod c.length n
  have hm := Nat.mod_lt c.length hn
  have hq := mul_eq_pred_mul_add hn (c.length / n)
  simp only [Chunk.balanced] at hlen
  -- either the pieces are as large as the smaller chunks, and then there are no larger ones, or
  -- they have room for the larger ones
  rcases Nat.lt_or_ge (c.length / n) w with hw | hw
  · have hroom : (n - 1) * (c.length / n + 1) ≤ (n - 1) * w := Nat.mul_le_mul_left _ hw
    rw [Nat.mul_succ] at hroom
    omega
  · have hle : n * w ≤ n * (c.length / n) := Nat.mul_le_mul_left _ hw
    have hw' : w = c.length / n := Nat.le_antisymm hw (Nat.le_of_mul_le_mul_left (by omega) hn)
    rw [hw']
    omega

/-- The chunks beside a chunk hold at least one byte each. -/
theorem length_chunk_add_le {c : Candidate} {i n : Nat} (hl : n ≤ c.length) (hi : i < n) :
    (chunk c i n).length + (n - 1) ≤ c.length := by
  have hn : 0 < n := by omega
  have hd := Nat.div_add_mod c.length n
  have hq := mul_eq_pred_mul_add hn (c.length / n)
  have hrest : n - 1 ≤ (n - 1) * (c.length / n) :=
    Nat.le_mul_of_pos_right _ (Nat.div_pos hl hn)
  rw [length_chunk hi]
  simp only [Chunk.balanced]
  split <;> omega

/-! ## The finest split -/

/-- In the finest split chunk `i` is byte `i`. -/
theorem balanced_finest (len i : Nat) (hl : 0 < len) : Chunk.balanced len len i = ⟨i, 1⟩ := by
  simp [Chunk.balanced, Nat.div_self hl, Nat.mod_self]

theorem complement_finest (c : Candidate) (i : Nat) (hi : i < c.length) :
    complement c i c.length = c.eraseIdx i := by
  unfold complement Chunk.delete
  rw [balanced_finest c.length i (by omega), List.eraseIdx_eq_take_drop_succ]
  rfl

theorem chunk_finest (bytes : Candidate) (i : Nat) (hi : i < bytes.length) :
    chunk bytes i bytes.length = [bytes[i]] := by
  unfold chunk Chunk.select
  rw [balanced_finest bytes.length i (by omega), List.drop_eq_getElem_cons hi]
  rfl

/-- All that is left when one byte is deleted, by the position of the byte. -/
def deletions (c : Candidate) : List Candidate := (List.range c.length).map c.eraseIdx

/-- All bytes, each alone. -/
def singles (c : Candidate) : List Candidate := c.map fun b => [b]

theorem map_complement_finest (c : Candidate) {n : Nat} (hn : n = c.length) :
    (List.finRange n).map (fun i : Fin n => complement c i n) = deletions c := by
  subst hn
  apply List.ext_getElem
  · simp [deletions]
  · intro i h1 h2
    have hi : i < c.length := by simpa using h1
    simp [deletions, complement_finest c i hi]

theorem map_chunk_finest (c : Candidate) {n : Nat} (hn : n = c.length) :
    (List.finRange n).map (fun i : Fin n => chunk c i n) = singles c := by
  subst hn
  apply List.ext_getElem
  · simp [singles]
  · intro i h1 h2
    have hi : i < c.length := by simpa using h1
    simp [singles, chunk_finest c i hi]

end DeltaDebug.Partition
