/-
  Balanced partitions of a byte string: `len` bytes are split into `n` contiguous chunks whose
  sizes differ by at most one, the larger ones first. A chunk is known by a closed formula, so
  that one chunk, or what is left when it is deleted, costs no walk over the others.
-/

namespace DeltaDebug

/-- A test input: the bytes that are handed to the target. -/
abbrev Candidate := List UInt8

/-- A contiguous range of the candidate that is being split. -/
structure Chunk where
  start : Nat
  len : Nat
deriving DecidableEq, Repr

namespace Chunk

/-- The first position behind the chunk. -/
def stop (c : Chunk) : Nat := c.start + c.len

/-- Chunk `i` of the balanced split of `len` bytes into `n`: with `q = len / n` and
`r = len % n`, the first `r` chunks hold `q + 1` bytes and the others `q`. -/
def balanced (len n i : Nat) : Chunk where
  start := i * (len / n) + min i (len % n)
  len := len / n + if i < len % n then 1 else 0

/-- The bytes inside the chunk. -/
def select (c : Chunk) (bytes : Candidate) : Candidate :=
  (bytes.drop c.start).take c.len

/-- The bytes outside the chunk, in their order. -/
def delete (c : Chunk) (bytes : Candidate) : Candidate :=
  bytes.take c.start ++ bytes.drop c.stop

end Chunk

namespace Partition

/-- Why a split, or a chunk of it, does not exist. -/
inductive Fault where
  /-- `n` chunks cannot be cut from `len` bytes: each chunk holds a byte, and there is a chunk. -/
  | count (len n : Nat)
  /-- The split has `n` chunks, numbered from 0. -/
  | index (i n : Nat)
deriving DecidableEq, Repr

/-- The wording of a fault. -/
def Fault.message : Fault → String
  | .count len n => s!"cannot split {len} bytes into {n} chunks"
  | .index i n => s!"chunk index {i} out of range for {n} chunks"

/-- Chunk `i` of `len` bytes in `n`; the number of chunks is judged before the index. -/
def chunkAt (len i n : Nat) : Except Fault Chunk :=
  if n = 0 ∨ len < n then .error (.count len n)
  else if n ≤ i then .error (.index i n)
  else .ok (Chunk.balanced len n i)

/-- All chunks of `len` bytes in `n`, in order. -/
def chunks (len n : Nat) : Except Fault (List Chunk) :=
  if n = 0 ∨ len < n then .error (.count len n)
  else .ok ((List.range n).map (Chunk.balanced len n))

/-- The bytes of chunk `i` alone. -/
def chunk (c : Candidate) (i n : Nat) : Candidate :=
  (Chunk.balanced c.length n i).select c

/-- The candidate with chunk `i` deleted. -/
def complement (c : Candidate) (i n : Nat) : Candidate :=
  (Chunk.balanced c.length n i).delete c

/-- `chunk` for callers that do not know whether the split exists. -/
def chunk? (c : Candidate) (i n : Nat) : Except Fault Candidate :=
  (chunkAt c.length i n).map (·.select c)

/-- `complement` for callers that do not know whether the split exists. -/
def complement? (c : Candidate) (i n : Nat) : Except Fault Candidate :=
  (chunkAt c.length i n).map (·.delete c)

theorem chunkAt_eq_ok {len i n : Nat} (hn : 0 < n) (hl : n ≤ len) (hi : i < n) :
    chunkAt len i n = .ok (Chunk.balanced len n i) := by
  unfold chunkAt
  rw [if_neg (by omega), if_neg (by omega)]

theorem complement?_eq_ok {c : Candidate} {i n : Nat} (hl : n ≤ c.length) (hi : i < n) :
    complement? c i n = .ok (complement c i n) := by
  rw [complement?, chunkAt_eq_ok (by omega) hl hi]; rfl

theorem chunk?_eq_ok {c : Candidate} {i n : Nat} (hl : n ≤ c.length) (hi : i < n) :
    chunk? c i n = .ok (chunk c i n) := by
  rw [chunk?, chunkAt_eq_ok (by omega) hl hi]; rfl

/-- Where chunk `i` stops, chunk `i + 1` starts. -/
theorem balanced_stop (len n i : Nat) :
    (Chunk.balanced len n i).stop = (Chunk.balanced len n (i + 1)).start := by
  simp only [Chunk.balanced, Chunk.stop, Nat.add_mul, Nat.one_mul]
  split <;> omega

/-- The chunks end where the bytes end. -/
theorem balanced_start_self (len n : Nat) (hn : 0 < n) :
    (Chunk.balanced len n n).start = len := by
  have := Nat.mod_lt len hn
  have := Nat.div_add_mod len n
  simp only [Chunk.balanced]
  omega

theorem balanced_start_mono (len n : Nat) {i j : Nat} (h : i ≤ j) :
    (Chunk.balanced len n i).start ≤ (Chunk.balanced len n j).start := by
  have := Nat.mul_le_mul_right (len / n) h
  simp only [Chunk.balanced]
  omega

/-- A chunk lies inside the bytes it is cut from. -/
theorem balanced_stop_le (len : Nat) {n i : Nat} (hi : i < n) :
    (Chunk.balanced len n i).stop ≤ len := by
  rw [balanced_stop]
  have := balanced_start_mono len n (show i + 1 ≤ n by omega)
  rw [balanced_start_self len n (by omega)] at this
  exact this

/-- A chunk of a split into no more parts than there are bytes is not empty. -/
theorem balanced_len_pos (i : Nat) {len n : Nat} (hl : n ≤ len) (hn : 0 < n) :
    0 < (Chunk.balanced len n i).len := by
  have := Nat.div_pos hl hn
  simp only [Chunk.balanced]
  omega

theorem length_chunk {c : Candidate} {i n : Nat} (hi : i < n) :
    (chunk c i n).length = (Chunk.balanced c.length n i).len := by
  have h := balanced_stop_le c.length hi
  simp only [Chunk.stop] at h
  simp only [chunk, Chunk.select, List.length_take, List.length_drop]
  omega

theorem length_complement (c : Candidate) {i n : Nat} (hi : i < n) :
    (complement c i n).length + (Chunk.balanced c.length n i).len = c.length := by
  have h := balanced_stop_le c.length hi
  simp only [Chunk.stop] at h
  simp only [complement, Chunk.delete, Chunk.stop, List.length_append, List.length_take,
    List.length_drop]
  omega

/-- Deleting a chunk makes the candidate shorter. -/
theorem length_complement_lt {c : Candidate} {i n : Nat} (hl : n ≤ c.length) (hi : i < n) :
    (complement c i n).length < c.length := by
  have := length_complement c hi
  have := balanced_len_pos i hl (by omega)
  omega

/-- A chunk is shorter than the candidate as soon as there is a second one. -/
theorem length_chunk_lt {c : Candidate} {i n : Nat} (hl : n ≤ c.length) (hi : i < n)
    (hn : 1 < n) : (chunk c i n).length < c.length := by
  rw [length_chunk hi]
  have hd := Nat.div_add_mod c.length n
  have hp := Nat.div_pos hl (by omega : 0 < n)
  have h2 : 2 * (c.length / n) ≤ n * (c.length / n) := Nat.mul_le_mul_right _ hn
  simp only [Chunk.balanced]
  split <;> omega

end Partition

end DeltaDebug
