import DeltaDebug.Proofs.Partition
import DeltaDebug.Proofs.Word
import Mathlib.Data.List.FinRange

/-
  The laws of a balanced split. Its chunks lie one behind the other (`Tiles`): since each of them
  starts where the one before it stops, a run of chunks leads from the start of the first to where
  the next would start (`tiles_range'`). Bytes that are cut along a tiling and put together again
  are the bytes that it covers (`Tiles.flatMap_select`). Hence the chunks make up the candidate, and
  the runs before and behind a chunk make up its complement.

  In words of 64 bits the four functions of a split are trapped exactly where they are at fault in
  natural numbers, with the same fault, and otherwise come to the same (`Word.chunkAt_eq`,
  `Word.chunk_eq`, `Word.complement_eq`, `Word.allChunks_eq`): all sums and products that a chunk
  is computed from are parts of the position behind it, and so are bounded by the length
  (`terms_le`).
-/

namespace DeltaDebug

/-! ## Tilings -/

/-- The chunks lie one behind the other, the first at `start`, and the last ends at `stop`. -/
def Tiles (start : Nat) : List Chunk → Nat → Prop
  | [], stop => start = stop
  | cut :: cuts, stop => cut.start = start ∧ Tiles cut.stop cuts stop

theorem Tiles.le {start stop : Nat} {cuts : List Chunk} (h : Tiles start cuts stop) :
    start ≤ stop := by
  induction cuts generalizing start with
  | nil => exact Nat.le_of_eq h
  | cons cut cuts ih =>
    obtain ⟨rfl, hrest⟩ := h
    have hle := ih hrest
    unfold Chunk.stop at hle
    omega

/-- The bytes inside the chunks of a tiling are those that it covers. -/
theorem Tiles.flatMap_select {start stop : Nat} {cuts : List Chunk} (h : Tiles start cuts stop)
    (c : Candidate) : cuts.flatMap (·.select c) = (c.drop start).take (stop - start) := by
  induction cuts generalizing start with
  | nil =>
    obtain rfl : start = stop := h
    rw [Nat.sub_self, List.take_zero]
    rfl
  | cons cut cuts ih =>
    obtain ⟨rfl, hrest⟩ := h
    have hle := hrest.le
    unfold Chunk.stop at hle
    -- the first chunk takes its bytes off the front of those that are covered
    have hlen : stop - cut.start = cut.len + (stop - cut.stop) := by
      unfold Chunk.stop
      omega
    rw [List.flatMap_cons, ih hrest, hlen, List.take_add, List.drop_drop]
    rfl

namespace Partition

/-! ## Runs of chunks -/

theorem balanced_start_zero (len n : Nat) : (Chunk.balanced len n 0).start = 0 := by
  simp [Chunk.balanced]

/-- A run of `k` chunks, from chunk `i` on. -/
theorem tiles_range' (len n i k : Nat) :
    Tiles (Chunk.balanced len n i).start ((List.range' i k).map (Chunk.balanced len n))
      (Chunk.balanced len n (i + k)).start := by
  induction k generalizing i with
  | zero => rfl
  | succ k ih =>
    have hrest := ih (i + 1)
    rw [← balanced_stop, Nat.add_right_comm] at hrest
    exact ⟨rfl, hrest⟩

theorem tiles_range {len n : Nat} (hn : 0 < n) :
    Tiles 0 ((List.range n).map (Chunk.balanced len n)) len := by
  have h := tiles_range' len n 0 n
  rw [balanced_start_zero, Nat.zero_add, balanced_start_self len n hn] at h
  rw [List.range_eq_range']
  exact h

/-- The larger chunks come first, as many as there are bytes left over. -/
theorem map_len_balanced {len n : Nat} (hn : 0 < n) :
    ((List.range n).map (Chunk.balanced len n)).map Chunk.len =
      List.replicate (len % n) (len / n + 1) ++ List.replicate (n - len % n) (len / n) := by
  have hmod := Nat.mod_lt len hn
  apply List.ext_getElem
  · simp
    omega
  · intro i h1 h2
    rw [List.getElem_append]
    simp only [List.getElem_map, List.getElem_range, Chunk.balanced, List.getElem_replicate,
      List.length_replicate]
    split <;> rfl

/-! ## Chunks and complements -/

/-- The bytes of a run of chunks. -/
theorem flatMap_chunk_range' (c : Candidate) (n i k : Nat) :
    (List.range' i k).flatMap (chunk c · n) =
      (c.drop (Chunk.balanced c.length n i).start).take
        ((Chunk.balanced c.length n (i + k)).start - (Chunk.balanced c.length n i).start) := by
  rw [← (tiles_range' c.length n i k).flatMap_select c, List.flatMap_map]
  rfl

theorem flatMap_chunk (c : Candidate) {n : Nat} (hn : 0 < n) :
    (List.range n).flatMap (chunk c · n) = c := by
  rw [List.range_eq_range', flatMap_chunk_range', balanced_start_zero, Nat.zero_add,
    balanced_start_self c.length n hn, List.drop_zero, Nat.sub_zero, List.take_length]

/-- The indices beside `i` are those before it and those behind it. -/
theorem filter_ne_range (i k : Nat) :
    (List.range (i + 1 + k)).filter (· ≠ i) = List.range' 0 i ++ List.range' (i + 1) k := by
  have hbefore : (List.range' 0 i).filter (· ≠ i) = List.range' 0 i := by
    refine List.filter_eq_self.mpr fun j hj => ?_
    have hlt := (List.mem_range'_1.mp hj).2
    exact decide_eq_true (by omega)
  have hbehind : (List.range' (i + 1) k).filter (· ≠ i) = List.range' (i + 1) k := by
    refine List.filter_eq_self.mpr fun j hj => ?_
    have hlt := (List.mem_range'_1.mp hj).1
    exact decide_eq_true (by omega)
  rw [List.range_add, List.range_succ, List.filter_append, List.filter_append,
    List.filter_cons_of_neg (by simp), List.filter_nil, List.append_nil,
    ← List.range'_eq_map_range, hbehind, List.range_eq_range', hbefore]

/-- What is left without a chunk is made up of the others. -/
theorem complement_eq_flatMap (c : Candidate) {i n : Nat} (hi : i < n) :
    complement c i n = ((List.range n).filter (· ≠ i)).flatMap (chunk c · n) := by
  obtain ⟨k, rfl⟩ := Nat.exists_eq_add_of_le hi
  rw [filter_ne_range, List.flatMap_append, flatMap_chunk_range', flatMap_chunk_range',
    balanced_start_self c.length (i + 1 + k) (by omega), balanced_start_zero, Nat.zero_add,
    Nat.sub_zero, List.drop_zero, ← balanced_stop, ← List.length_drop, List.take_length]
  rfl

/-- A chunk that is put back where it was cut out restores the candidate. -/
theorem complement_insert_chunk (c : Candidate) {i n : Nat} (hi : i < n) :
    (complement c i n).take (Chunk.balanced c.length n i).start ++ chunk c i n ++
      (complement c i n).drop (Chunk.balanced c.length n i).start = c := by
  have hle := balanced_stop_le c.length hi
  unfold complement chunk
  generalize Chunk.balanced c.length n i = cut at hle ⊢
  unfold Chunk.stop at hle
  have hlen : (c.take cut.start).length = cut.start := List.length_take_of_le (by omega)
  unfold Chunk.delete Chunk.select Chunk.stop
  rw [List.take_left' hlen, List.drop_left' hlen, ← List.drop_drop, List.append_assoc,
    List.take_append_drop, List.take_append_drop]

/-! ## Faults -/

theorem isOk_chunkAt (len i n : Nat) : (chunkAt len i n).isOk ↔ 1 ≤ n ∧ n ≤ len ∧ i < n := by
  unfold chunkAt
  split
  case isTrue hcount => exact iff_of_false Bool.false_ne_true (by omega)
  case isFalse hcount =>
    split
    case isTrue hindex => exact iff_of_false Bool.false_ne_true (by omega)
    case isFalse hindex => exact iff_of_true rfl (by omega)

theorem isOk_chunks (len n : Nat) : (chunks len n).isOk ↔ 1 ≤ n ∧ n ≤ len := by
  unfold chunks
  split
  case isTrue hcount => exact iff_of_false Bool.false_ne_true (by omega)
  case isFalse hcount => exact iff_of_true rfl (by omega)

theorem isOk_map {α β ε : Type} (f : α → β) (x : Except ε α) : (x.map f).isOk = x.isOk := by
  cases x <;> rfl

theorem isOk_chunk? (c : Candidate) (i n : Nat) :
    (chunk? c i n).isOk ↔ 1 ≤ n ∧ n ≤ c.length ∧ i < n := by
  rw [chunk?, isOk_map, isOk_chunkAt]

theorem isOk_complement? (c : Candidate) (i n : Nat) :
    (complement? c i n).isOk ↔ 1 ≤ n ∧ n ≤ c.length ∧ i < n := by
  rw [complement?, isOk_map, isOk_chunkAt]

/-- The sums and products that a chunk is computed from are no more than the length. -/
theorem terms_le (len : Nat) {i n : Nat} (hi : i < n) :
    i * (len / n) ≤ len ∧ i * (len / n) + min i (len % n) ≤ len ∧
      (len / n + if i < len % n then 1 else 0) ≤ len := by
  have hstop := balanced_stop_le len hi
  have hparts : (Chunk.balanced len n i).stop =
      i * (len / n) + min i (len % n) + (len / n + if i < len % n then 1 else 0) := rfl
  generalize (len / n + if i < len % n then 1 else 0) = size at hparts ⊢
  omega

end Partition

/-! ## Words -/

namespace Word

/-- The chunk in natural numbers. -/
def Chunk.toNat (cut : Chunk) : DeltaDebug.Chunk := ⟨cut.start.toNat, cut.len.toNat⟩

/-- All chunks of the candidate in `n`, in order. -/
def allChunks (c : Candidate) (n : UInt64) : Except Trap (List Chunk) :=
  if n < 1 ∨ length c < n then .error (.fault (.count (length c).toNat n.toNat))
  else (List.finRange n.toNat).mapM fun i : Fin n.toNat => chunkAt (length c) (.ofNat i) n

theorem count_iff (len n : UInt64) :
    (n < 1 ∨ len < n) ↔ (n.toNat = 0 ∨ len.toNat < n.toNat) := by
  rw [UInt64.lt_iff_toNat_lt, UInt64.lt_iff_toNat_lt, UInt64.toNat_one, Nat.lt_one_iff]

theorem chunkAt_eq (len i n : UInt64) :
    (chunkAt len i n).map Chunk.toNat =
      (Partition.chunkAt len.toNat i.toNat n.toNat).mapError .fault := by
  -- in words as in numbers, the number of chunks is judged before the index
  by_cases hc : n.toNat = 0 ∨ len.toNat < n.toNat
  · unfold chunkAt Partition.chunkAt
    rw [if_pos ((count_iff len n).mpr hc), if_pos hc]
    rfl
  · by_cases hi : n.toNat ≤ i.toNat
    · unfold chunkAt Partition.chunkAt
      rw [if_neg (mt (count_iff len n).mp hc), if_pos (UInt64.le_iff_toNat_le.mpr hi), if_neg hc,
        if_pos hi]
      rfl
    · have hn' : n.toNat ≤ len.toNat := by omega
      have hi' : i.toNat < n.toNat := by omega
      obtain ⟨cut, hcut, hstart, hsize⟩ := chunkAt_ok hn' hi'
      have hnat : cut.toNat = DeltaDebug.Chunk.balanced len.toNat n.toNat i.toNat :=
        congrArg₂ DeltaDebug.Chunk.mk hstart hsize
      rw [hcut, Partition.chunkAt_eq_ok (by omega) hn' hi', ← hnat]
      rfl

theorem map_mapM_ok {α β γ : Type} {g : α → Except Trap β} {view : β → γ} {f : α → γ}
    (h : ∀ a, (g a).map view = .ok (f a)) (as : List α) :
    (as.mapM g).map (List.map view) = .ok (as.map f) := by
  induction as with
  | nil => rfl
  | cons a as ih =>
    have ha := h a
    cases hb : g a with
    | error t =>
      rw [hb] at ha
      cases ha
    | ok b =>
      rw [hb] at ha
      cases hbs : as.mapM g with
      | error t =>
        rw [hbs] at ih
        cases ih
      | ok bs =>
        rw [hbs] at ih
        rw [List.mapM_cons, bind_ok hb, bind_ok hbs]
        exact congrArg₂ (fun x xs => Except.ok (x :: xs)) (Except.ok.inj ha) (Except.ok.inj ih)

section Candidate

variable {c : Candidate} (hc : c.length < 2 ^ 64) (i n : UInt64)

include hc

/-- A chunk exists, or it is at fault in words and in natural numbers. -/
theorem chunkAt_cases : (n.toNat ≤ c.length ∧ i.toNat < n.toNat) ∨
    ∃ f, Partition.chunkAt c.length i.toNat n.toNat = .error f ∧
      chunkAt (length c) i n = .error (.fault f) := by
  have heq := chunkAt_eq (length c) i n
  rw [toNat_length hc] at heq
  cases h : Partition.chunkAt c.length i.toNat n.toNat with
  | ok cut =>
    obtain ⟨_, hn, hi⟩ := (Partition.isOk_chunkAt c.length i.toNat n.toNat).mp (by rw [h]; rfl)
    exact Or.inl ⟨hn, hi⟩
  | error f =>
    rw [h] at heq
    refine Or.inr ⟨f, rfl, ?_⟩
    cases hcut : chunkAt (length c) i n with
    | ok cut =>
      rw [hcut] at heq
      cases heq
    | error t =>
      rw [hcut] at heq
      cases heq
      rfl

theorem chunk_eq : chunk c i n = (Partition.chunk? c i.toNat n.toNat).mapError .fault := by
  obtain ⟨hn, hi⟩ | ⟨f, hnat, hword⟩ := chunkAt_cases hc i n
  · rw [chunk_ok hc hn hi, Partition.chunk?_eq_ok hn hi]
    rfl
  · unfold chunk Partition.chunk?
    rw [hnat, hword]
    rfl

theorem complement_eq :
    complement c i n = (Partition.complement? c i.toNat n.toNat).mapError .fault := by
  obtain ⟨hn, hi⟩ | ⟨f, hnat, hword⟩ := chunkAt_cases hc i n
  · rw [complement_ok hc hn hi, Partition.complement?_eq_ok hn hi]
    rfl
  · unfold complement Partition.complement?
    rw [hnat, hword]
    rfl

theorem allChunks_eq : (allChunks c n).map (List.map Chunk.toNat) =
    (Partition.chunks c.length n.toNat).mapError .fault := by
  have hlen := toNat_length hc
  have hcount := count_iff (length c) n
  rw [hlen] at hcount
  unfold allChunks Partition.chunks
  by_cases hn : n.toNat = 0 ∨ c.length < n.toNat
  · rw [if_pos (hcount.mpr hn), if_pos hn, hlen]
    rfl
  · rw [if_neg (mt hcount.mp hn), if_neg hn]
    have hcut : ∀ i : Fin n.toNat, (chunkAt (length c) (.ofNat i) n).map Chunk.toNat =
        .ok (DeltaDebug.Chunk.balanced c.length n.toNat i) := by
      intro i
      have hi := i.isLt
      rw [chunkAt_eq, hlen, toNat_ofNat_index, Partition.chunkAt_eq_ok (by omega) (by omega) hi]
      rfl
    rw [map_mapM_ok hcut, ← List.map_coe_finRange_eq_range, List.map_map]
    rfl

end Candidate

/-- The stop of a chunk of a split that exists can be computed, and lies within the bytes. -/
theorem stop_ok {len i n : UInt64} (hn : n ≤ len) (hi : i < n) :
    ∃ cut stop, chunkAt len i n = .ok cut ∧ cut.stop = .ok stop ∧
      cut.toNat = DeltaDebug.Chunk.balanced len.toNat n.toNat i.toNat ∧
      stop.toNat = cut.toNat.stop ∧ stop ≤ len := by
  rw [UInt64.le_iff_toNat_le] at hn
  rw [UInt64.lt_iff_toNat_lt] at hi
  obtain ⟨cut, hcut, hstart, hsize⟩ := chunkAt_ok hn hi
  have hlen := len.toNat_lt
  have hle := Partition.balanced_stop_le len.toNat hi
  unfold DeltaDebug.Chunk.stop at hle
  rw [← hstart, ← hsize] at hle
  obtain ⟨stop, hstop, hstop'⟩ := add_ok (a := cut.start) (b := cut.len) (by omega)
  refine ⟨cut, stop, hcut, hstop, congrArg₂ DeltaDebug.Chunk.mk hstart hsize, hstop', ?_⟩
  rw [UInt64.le_iff_toNat_le, hstop']
  exact hle

end Word

/-! ## The laws of a split -/

namespace Partition

/-- The chunks of `len` bytes in `n`, as they have to be. -/
structure Balanced (len n : Nat) (cuts : List Chunk) : Prop where
  length_eq : cuts.length = n
  nonempty : ∀ cut ∈ cuts, 0 < cut.len
  tiles : Tiles 0 cuts len
  sizes : cuts.map Chunk.len =
    List.replicate (len % n) (len / n + 1) ++ List.replicate (n - len % n) (len / n)
  /-- Each of them can be had without the others. -/
  chunkAt_iff : ∀ i cut, chunkAt len i n = .ok cut ↔ cuts[i]? = some cut

/-- What the chunks of a candidate in `n`, and what is left without one of them, have to do with
    the candidate. -/
structure Composed (c : Candidate) (n : Nat) : Prop where
  join : (List.range n).flatMap (chunk c · n) = c
  others : ∀ i < n, complement c i n = ((List.range n).filter (· ≠ i)).flatMap (chunk c · n)
  restore : ∀ i cut, chunkAt c.length i n = .ok cut →
    (complement c i n).take cut.start ++ chunk c i n ++ (complement c i n).drop cut.start = c
  finest : n = c.length → ∀ i < n, complement c i n = c.eraseIdx i

theorem balanced_chunks {len n : Nat} (hn : 1 ≤ n) (hl : n ≤ len) :
    ∃ cuts, chunks len n = .ok cuts ∧ Balanced len n cuts := by
  refine ⟨(List.range n).map (Chunk.balanced len n), if_neg (by omega), ?_, ?_, tiles_range hn,
    map_len_balanced hn, ?_⟩
  · rw [List.length_map, List.length_range]
  · intro cut hcut
    obtain ⟨i, _, rfl⟩ := List.mem_map.mp hcut
    exact balanced_len_pos i hl hn
  · intro i cut
    by_cases hi : i < n
    · rw [chunkAt_eq_ok hn hl hi, List.getElem?_map, List.getElem?_range hi, Option.map_some,
        Except.ok.injEq, Option.some.injEq]
    · have hnone : ((List.range n).map (Chunk.balanced len n))[i]? = none :=
        List.getElem?_eq_none (by rw [List.length_map, List.length_range]; omega)
      rw [hnone]
      refine iff_of_false (fun hcut => hi ?_) nofun
      exact ((isOk_chunkAt len i n).mp (by rw [hcut]; rfl)).2.2

/-- Six bytes in four. -/
example : chunks 6 4 = .ok [⟨0, 2⟩, ⟨2, 2⟩, ⟨4, 1⟩, ⟨5, 1⟩] := rfl

theorem composed {c : Candidate} {n : Nat} (hn : 1 ≤ n) (hl : n ≤ c.length) : Composed c n := by
  refine ⟨flatMap_chunk c hn, fun i hi => complement_eq_flatMap c hi, ?_, ?_⟩
  · intro i cut hcut
    obtain ⟨_, _, hi⟩ := (isOk_chunkAt c.length i n).mp (by rw [hcut]; rfl)
    rw [chunkAt_eq_ok hn hl hi] at hcut
    cases hcut
    exact complement_insert_chunk c hi
  · rintro rfl i hi
    exact complement_finest c i hi

/-- In words of 64 bits the chunks of a candidate, and what is left without one, are trapped where
    they are at fault in natural numbers, with the same fault, and otherwise come to the same. -/
structure InWords (c : Candidate) (i n : UInt64) : Prop where
  chunk_eq : Word.chunk c i n = (chunk? c i.toNat n.toNat).mapError .fault
  complement_eq : Word.complement c i n = (complement? c i.toNat n.toNat).mapError .fault
  chunks_eq : (Word.allChunks c n).map (List.map Word.Chunk.toNat) =
    (chunks c.length n.toNat).mapError .fault

/-- **The laws of a balanced split.** A candidate of at least `n ≥ 1` bytes is split in `n` chunks
    that are not empty and lie one behind the other from its first byte to its last, the larger ones
    first. The chunks make up the candidate, and all but one of them what is left without that one,
    which is the candidate without a byte if there are as many chunks as bytes. For no length, index
    and number of chunks of 64 bits do the sums and products exceed the length, so that words do for
    them. Outside these bounds, and only there, there is no split, or no such chunk. -/
theorem split_balanced :
    (∀ (c : Candidate) (n : Nat), 1 ≤ n → n ≤ c.length →
      (∃ cuts, chunks c.length n = .ok cuts ∧ Balanced c.length n cuts) ∧
      (∀ i < n, chunk? c i n = .ok (chunk c i n) ∧ complement? c i n = .ok (complement c i n)) ∧
      Composed c n) ∧
    (∀ len i n : UInt64, 1 ≤ n → n ≤ len → i < n →
      i.toNat * (len.toNat / n.toNat) ≤ len.toNat ∧
      i.toNat * (len.toNat / n.toNat) + min i.toNat (len.toNat % n.toNat) ≤ len.toNat ∧
      (len.toNat / n.toNat + if i.toNat < len.toNat % n.toNat then 1 else 0) ≤ len.toNat ∧
      ∃ cut stop, Word.chunkAt len i n = .ok cut ∧ cut.stop = .ok stop ∧
        cut.toNat = Chunk.balanced len.toNat n.toNat i.toNat ∧
        stop.toNat = cut.toNat.stop ∧ stop ≤ len) ∧
    (∀ len i n : UInt64, (Word.chunkAt len i n).map Word.Chunk.toNat =
      (chunkAt len.toNat i.toNat n.toNat).mapError .fault) ∧
    (∀ (c : Candidate) (i n : UInt64), c.length < 2 ^ 64 → InWords c i n) ∧
    (∀ len i n, (chunkAt len i n).isOk ↔ 1 ≤ n ∧ n ≤ len ∧ i < n) ∧
    (∀ len n, (chunks len n).isOk ↔ 1 ≤ n ∧ n ≤ len) ∧
    ∀ c i n, ((chunk? c i n).isOk ↔ 1 ≤ n ∧ n ≤ c.length ∧ i < n) ∧
      ((complement? c i n).isOk ↔ 1 ≤ n ∧ n ≤ c.length ∧ i < n) := by
  refine ⟨?_, ?_, Word.chunkAt_eq, ?_, isOk_chunkAt, isOk_chunks,
    fun c i n => ⟨isOk_chunk? c i n, isOk_complement? c i n⟩⟩
  · intro c n hn hl
    refine ⟨balanced_chunks hn hl, fun i hi => ?_, composed hn hl⟩
    exact ⟨chunk?_eq_ok hl hi, complement?_eq_ok hl hi⟩
  · intro len i n _ hn hi
    obtain ⟨hproduct, hstart, hsize⟩ := terms_le len.toNat (UInt64.lt_iff_toNat_lt.mp hi)
    exact ⟨hproduct, hstart, hsize, Word.stop_ok hn hi⟩
  · intro c i n hc
    exact ⟨Word.chunk_eq hc i n, Word.complement_eq hc i n, Word.allChunks_eq hc n⟩

/-- Seven bytes in three, and the last of 2^63 chunks of 2^64 - 1 bytes, which ends at the greatest
    word there is. -/
theorem split_balanced_greatest :
    (∃ cuts, chunks 7 3 = .ok cuts ∧ Balanced 7 3 cuts) ∧
    chunk [97, 98, 99, 100, 101, 102, 103] 0 3 ++ chunk [97, 98, 99, 100, 101, 102, 103] 2 3 =
      complement [97, 98, 99, 100, 101, 102, 103] 1 3 ∧
    ∃ cut stop, Word.chunkAt 18446744073709551615 9223372036854775807 9223372036854775808 =
        .ok cut ∧ cut.stop = .ok stop ∧ stop ≤ 18446744073709551615 := by
  obtain ⟨hlaws, hwords, _⟩ := split_balanced
  obtain ⟨hcuts, _, hcomposed⟩ := hlaws [97, 98, 99, 100, 101, 102, 103] 3 (by decide) (by decide)
  obtain ⟨_, _, _, cut, stop, hcut, hstop, _, _, hle⟩ := hwords 18446744073709551615
    9223372036854775807 9223372036854775808 (by decide) (by decide) (by decide)
  exact ⟨hcuts, (hcomposed.others 1 (by decide)).symm, cut, stop, hcut, hstop, hle⟩

end Partition

end DeltaDebug
