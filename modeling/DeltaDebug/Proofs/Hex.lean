import DeltaDebug.Hex

/-
  Texts of hexadecimal digits. Reading takes a text apart into its bytes and the bytes into pairs
  (`decodePairs_eq_ok_iff`). What a byte is worth as a digit is looked up in all 256 cases at once
  (`digit?_table`): no byte above 127 is a digit, so in a text that can be read every character is
  one byte (`toList_toUTF8_of_digits`), and a digit of either case has the value that is written as
  its lower case.

  Main statements: a text is read as some bytes exactly if all its characters are digits and its
  lower case is what the bytes are written as (`decode_eq_ok_iff`), and it can be read at all
  exactly if all its characters are digits and it has an even number of bytes (`exists_decode_iff`).
-/

namespace DeltaDebug.Hex

/-! ## The bytes of a text -/

theorem toList_loop (bs : ByteArray) (i : Nat) (r : List UInt8) :
    ByteArray.toList.loop bs i r = r.reverse ++ bs.data.toList.drop i := by
  fun_induction ByteArray.toList.loop bs i r with
  | case1 i r hlt ih =>
    have hlen : i < bs.data.toList.length := hlt
    have hget : bs.get! i = bs.data.toList[i] := getElem!_pos bs.data i hlt
    rw [ih, hget, List.drop_eq_getElem_cons hlen, List.reverse_cons, List.append_assoc]
    rfl
  | case2 i r hge =>
    have hlen : bs.data.toList.length ≤ i := Nat.le_of_not_lt hge
    rw [List.drop_eq_nil_of_le hlen, List.append_nil]

theorem toList_toUTF8 (text : String) :
    text.toUTF8.toList = text.toList.flatMap String.utf8EncodeChar := by
  rw [String.toUTF8_eq_toByteArray, ← String.utf8Encode_toList, ByteArray.toList, toList_loop,
    List.utf8Encode, List.toList_data_toByteArray]
  rfl

theorem length_toList_toUTF8 (text : String) : text.toUTF8.toList.length = text.utf8ByteSize := by
  rw [ByteArray.toList, toList_loop]
  exact String.size_toByteArray

/-! ## Digits -/

/-- The character is a digit, of either case. -/
def IsDigit (c : Char) : Prop :=
  ('0' ≤ c ∧ c ≤ '9') ∨ ('a' ≤ c ∧ c ≤ 'f') ∨ ('A' ≤ c ∧ c ≤ 'F')

instance (c : Char) : Decidable (IsDigit c) :=
  inferInstanceAs (Decidable (_ ∨ _))

/-- The byte of a character that is one byte. -/
def toByte (c : Char) : UInt8 := UInt8.ofNat c.toNat

/-- All bytes: which are digits, and what they are worth. -/
theorem digit?_table : ∀ n < 256,
    ((digit? (UInt8.ofNat n)).isSome ↔ IsDigit (Char.ofNat n)) ∧
    ∀ v ∈ digit? (UInt8.ofNat n),
      n < 128 ∧ v.toNat < 16 ∧ Text.lowerHexDigit v.toNat = (Char.ofNat n).toLower := by
  decide +kernel

theorem digit?_lt {b v : UInt8} (h : digit? b = some v) : b.toNat < 128 ∧ v.toNat < 16 := by
  obtain ⟨_, htable⟩ := digit?_table b.toNat b.toNat_lt
  rw [UInt8.ofNat_toNat] at htable
  obtain ⟨hb, hv, _⟩ := htable v h
  exact ⟨hb, hv⟩

theorem IsDigit.toNat_lt {c : Char} (h : IsDigit c) : c.toNat < 128 := by
  unfold IsDigit at h
  simp only [Char.le_def, UInt32.le_iff_toNat_le] at h
  change c.val.toNat < 128
  rcases h with ⟨_, h⟩ | ⟨_, h⟩ | ⟨_, h⟩
  · exact Nat.lt_of_le_of_lt h (by decide)
  · exact Nat.lt_of_le_of_lt h (by decide)
  · exact Nat.lt_of_le_of_lt h (by decide)

/-- The value of a digit is written as its lower case. -/
theorem IsDigit.digit?_toByte {c : Char} (h : IsDigit c) :
    ∃ v, digit? (toByte c) = some v ∧ Text.lowerHexDigit v.toNat = c.toLower := by
  obtain ⟨hsome, htable⟩ := digit?_table c.toNat (Nat.lt_trans h.toNat_lt (by decide))
  rw [Char.ofNat_toNat] at hsome htable
  obtain ⟨v, hv⟩ := Option.isSome_iff_exists.mp (hsome.mpr h)
  exact ⟨v, hv, (htable v hv).2.2⟩

theorem IsDigit.utf8EncodeChar {c : Char} (h : IsDigit c) :
    String.utf8EncodeChar c = [toByte c] := by
  have hle : c.val.toNat ≤ 127 := Nat.le_of_lt_succ h.toNat_lt
  rw [String.utf8EncodeChar, if_pos hle]
  rfl

/-- A character whose bytes are digits is a digit. -/
theorem isDigit_of_utf8EncodeChar {c : Char}
    (h : ∀ b ∈ String.utf8EncodeChar c, (digit? b).isSome) : IsDigit c := by
  have hbound : ∀ b ∈ String.utf8EncodeChar c, b.toNat < 128 := by
    intro b hb
    obtain ⟨v, hv⟩ := Option.isSome_iff_exists.mp (h b hb)
    exact (digit?_lt hv).1
  by_cases hle : c.val.toNat ≤ 127
  · rw [String.utf8EncodeChar, if_pos hle] at h
    have hsome := h _ List.mem_cons_self
    obtain ⟨hiff, _⟩ := digit?_table c.toNat (Nat.lt_of_le_of_lt hle (by decide))
    rw [Char.ofNat_toNat] at hiff
    exact hiff.mp hsome
  -- the first of several bytes is above 127
  · exfalso
    rw [String.utf8EncodeChar, if_neg hle] at hbound
    split at hbound
    · have hfirst := hbound _ List.mem_cons_self
      simp only [UInt8.toNat_ofNat'] at hfirst
      omega
    · split at hbound
      · have hfirst := hbound _ List.mem_cons_self
        simp only [UInt8.toNat_ofNat'] at hfirst
        omega
      · have hfirst := hbound _ List.mem_cons_self
        simp only [UInt8.toNat_ofNat'] at hfirst
        omega

theorem toList_toUTF8_of_digits {text : String} (h : ∀ c ∈ text.toList, IsDigit c) :
    text.toUTF8.toList = text.toList.map toByte := by
  rw [toList_toUTF8]
  generalize text.toList = cs at h
  induction cs with
  | nil => rfl
  | cons c cs ih =>
    rw [List.flatMap_cons, (h c List.mem_cons_self).utf8EncodeChar,
      ih fun c' hc' => h c' (List.mem_cons_of_mem _ hc')]
    rfl

theorem forall_isDigit_of_bytes {text : String}
    (h : ∀ b ∈ text.toUTF8.toList, (digit? b).isSome) : ∀ c ∈ text.toList, IsDigit c := by
  rw [toList_toUTF8] at h
  intro c hc
  exact isDigit_of_utf8EncodeChar fun b hb => h b (List.mem_flatMap.mpr ⟨c, hc, hb⟩)

/-! ## Pairs -/

/-- The values of the two digits of a byte. -/
def halves (b : UInt8) : List UInt8 := [b / 16, b % 16]

theorem pair_eq_map_halves (b : UInt8) :
    pair b = (halves b).map fun v => Text.lowerHexDigit v.toNat := by
  unfold pair halves
  rw [List.map_cons, List.map_singleton, UInt8.toNat_div, UInt8.toNat_mod]
  rfl

theorem halves_eq_iff {b h l : UInt8} (hh : h.toNat < 16) (hl : l.toNat < 16) :
    halves b = [h, l] ↔ h * 16 + l = b := by
  have hsum : (h * 16 + l).toNat = h.toNat * 16 + l.toNat := by
    rw [UInt8.toNat_add, UInt8.toNat_mul]
    simp only [UInt8.reduceToNat]
    omega
  unfold halves
  rw [List.cons.injEq, List.cons.injEq, ← UInt8.toNat_inj, ← UInt8.toNat_inj, ← UInt8.toNat_inj,
    UInt8.toNat_div, UInt8.toNat_mod, hsum]
  simp only [UInt8.reduceToNat, and_true]
  omega

/-- Bytes are read as pairs of digits exactly if their values are the halves, one after the other.
    -/
theorem decodePairs_eq_ok_iff {i : Nat} {bs : List UInt8} {out : Candidate} :
    decodePairs i bs = .ok out ↔ bs.map digit? = (out.flatMap halves).map some := by
  fun_induction decodePairs i bs generalizing out with
  | case1 i =>
    cases out with
    | nil => simp
    | cons b out => simp [halves]
  | case2 i b =>
    cases out with
    | nil => simp
    | cons b out => simp [halves]
  | case3 i hi lo rest hnone =>
    cases out with
    | nil => simp
    | cons b out => simp [halves, hnone]
  | case4 i hi lo rest h hnone hsome =>
    cases out with
    | nil => simp
    | cons b out => simp [halves, hnone]
  | case5 i hi lo rest h l hlo hhi ih =>
    have hmap : (decodePairs (i + 2) rest).map ((h * 16 + l) :: ·) = .ok out ↔
        ∃ bytes, decodePairs (i + 2) rest = .ok bytes ∧ (h * 16 + l) :: bytes = out := by
      rcases decodePairs (i + 2) rest with e | bytes
      · simp [Except.map]
      · simp [Except.map]
    rw [hmap]
    cases out with
    | nil => simp
    | cons b out =>
      have hbyte := halves_eq_iff (b := b) (digit?_lt hhi).2 (digit?_lt hlo).2
      simp only [List.cons.injEq, ← hbyte, ih, halves, List.map_cons, hhi, hlo, List.flatMap_cons,
        List.cons_append, List.nil_append, Option.some.injEq]
      constructor
      · rintro ⟨bytes, hrest, ⟨hh, hl, _⟩, rfl⟩
        exact ⟨hh.symm, hl.symm, hrest⟩
      · rintro ⟨hh, hl, hrest⟩
        exact ⟨out, hrest, ⟨hh.symm, hl.symm, trivial⟩, rfl⟩

/-- Pairs can be read if there is nothing but digits, and an even number of them. -/
theorem exists_decodePairs {bs : List UInt8} (hdigits : ∀ b ∈ bs, (digit? b).isSome)
    (heven : bs.length % 2 = 0) (i : Nat) : ∃ out, decodePairs i bs = .ok out := by
  fun_induction decodePairs i bs with
  | case1 i => exact ⟨[], rfl⟩
  | case2 i b => exact absurd heven (by simp)
  | case3 i hi lo rest hnone => exact absurd (hdigits hi (by simp)) (by simp [hnone])
  | case4 i hi lo rest h hnone hsome => exact absurd (hdigits lo (by simp)) (by simp [hnone])
  | case5 i hi lo rest h l hlo hhi ih =>
    have hrest : rest.length % 2 = 0 := by
      simp only [List.length_cons] at heven
      omega
    obtain ⟨out, hout⟩ := ih (fun b hb => hdigits b (by simp [hb])) hrest
    exact ⟨_, congrArg _ hout⟩

/-! ## Texts -/

theorem decode_eq (text : String) : decode text =
    if text.utf8ByteSize % 2 = 1 then .error .oddLength else decodePairs 0 text.toUTF8.toList := by
  unfold decode
  dsimp only
  rw [length_toList_toUTF8]

/-- The values of digits are written as their lower case. -/
theorem toList_toLower (text : String) : text.toLower.toList = text.toList.map Char.toLower :=
  String.toList_map

theorem map_toLower {cs : List Char} (hdigits : ∀ c ∈ cs, IsDigit c) {vs : List UInt8}
    (h : (cs.map toByte).map digit? = vs.map some) :
    cs.map Char.toLower = vs.map fun v => Text.lowerHexDigit v.toNat := by
  induction cs generalizing vs with
  | nil =>
    cases vs with
    | nil => rfl
    | cons v vs => cases h
  | cons c cs ih =>
    cases vs with
    | nil => cases h
    | cons v vs =>
      obtain ⟨hhead, htail⟩ := List.cons.inj h
      obtain ⟨w, hw, hlower⟩ := (hdigits c List.mem_cons_self).digit?_toByte
      obtain rfl : w = v := Option.some.inj (hw.symm.trans hhead)
      rw [List.map_cons, List.map_cons, hlower,
        ih (fun c' hc' => hdigits c' (List.mem_cons_of_mem _ hc')) htail]

theorem toList_encode (bytes : Candidate) : (encode bytes).toList =
    (bytes.flatMap halves).map fun v => Text.lowerHexDigit v.toNat := by
  unfold encode
  rw [String.toList_ofList, List.map_flatMap, funext pair_eq_map_halves]

theorem length_toList_encode (bytes : Candidate) :
    (encode bytes).toList.length = 2 * bytes.length := by
  rw [toList_encode, List.length_map, List.length_flatMap]
  simp [halves, List.map_const', Nat.mul_comm]

theorem utf8ByteSize_of_digits {text : String} (h : ∀ c ∈ text.toList, IsDigit c) :
    text.utf8ByteSize = text.toList.length := by
  rw [← length_toList_toUTF8, toList_toUTF8_of_digits h, List.length_map]

/-- A text that can be read consists of digits, and what was read is written as its lower case. -/
theorem of_decode {text : String} {bytes : Candidate} (h : decode text = .ok bytes) :
    (∀ c ∈ text.toList, IsDigit c) ∧ encode bytes = text.toLower := by
  rw [decode_eq] at h
  split at h
  · cases h
  · have hvalues := decodePairs_eq_ok_iff.mp h
    have hsome : ∀ b ∈ text.toUTF8.toList, (digit? b).isSome := by
      intro b hb
      have hmem : digit? b ∈ (bytes.flatMap halves).map some := hvalues ▸ List.mem_map_of_mem hb
      obtain ⟨v, _, hv⟩ := List.mem_map.mp hmem
      rw [← hv]
      rfl
    have hdigits := forall_isDigit_of_bytes hsome
    refine ⟨hdigits, String.toList_inj.mp ?_⟩
    rw [toList_toUTF8_of_digits hdigits] at hvalues
    rw [toList_encode, ← map_toLower hdigits hvalues, toList_toLower]

/-- A text can be read exactly if all its characters are digits and it has an even number of
    bytes. -/
theorem exists_decode_iff {text : String} : (∃ bytes, decode text = .ok bytes) ↔
    text.utf8ByteSize % 2 = 0 ∧ ∀ c ∈ text.toList, IsDigit c := by
  constructor
  · rintro ⟨bytes, h⟩
    refine ⟨?_, (of_decode h).1⟩
    rw [decode_eq] at h
    split at h
    · cases h
    · omega
  · rintro ⟨heven, hdigits⟩
    rw [decode_eq, if_neg (by omega)]
    refine exists_decodePairs ?_ (by rw [length_toList_toUTF8]; exact heven) 0
    rw [toList_toUTF8_of_digits hdigits]
    intro b hb
    obtain ⟨c, hc, rfl⟩ := List.mem_map.mp hb
    obtain ⟨v, hv, _⟩ := (hdigits c hc).digit?_toByte
    rw [hv]
    rfl

theorem lowerHexDigit_table : ∀ n < 16, IsDigit (Text.lowerHexDigit n) ∧
    digit? (toByte (Text.lowerHexDigit n)) = some (UInt8.ofNat n) := by
  decide

/-- What is written is read back. -/
theorem decode_encode (bytes : Candidate) : decode (encode bytes) = .ok bytes := by
  have hlt : ∀ v ∈ bytes.flatMap halves, v.toNat < 16 := by
    intro v hv
    obtain ⟨b, _, hb⟩ := List.mem_flatMap.mp hv
    simp only [halves, List.mem_cons, List.not_mem_nil, or_false] at hb
    have hbyte := b.toNat_lt
    rcases hb with rfl | rfl
    · rw [UInt8.toNat_div]
      simp only [UInt8.reduceToNat]
      omega
    · rw [UInt8.toNat_mod]
      simp only [UInt8.reduceToNat]
      omega
  have hdigits : ∀ c ∈ (encode bytes).toList, IsDigit c := by
    rw [toList_encode]
    intro c hc
    obtain ⟨v, hv, rfl⟩ := List.mem_map.mp hc
    exact (lowerHexDigit_table v.toNat (hlt v hv)).1
  have heven : (encode bytes).utf8ByteSize % 2 = 0 := by
    rw [utf8ByteSize_of_digits hdigits, length_toList_encode, Nat.mul_mod_right]
  rw [decode_eq, if_neg (by omega), decodePairs_eq_ok_iff, toList_toUTF8_of_digits hdigits,
    toList_encode, List.map_map, List.map_map]
  refine List.map_congr_left fun v hv => ?_
  have hv' := (lowerHexDigit_table v.toNat (hlt v hv)).2
  rw [UInt8.ofNat_toNat] at hv'
  exact hv'

theorem encode_inj {bytes bytes' : Candidate} (h : encode bytes = encode bytes') :
    bytes = bytes' := by
  have hread := decode_encode bytes
  rw [h, decode_encode] at hread
  exact (Except.ok.inj hread).symm

/-- A text is read as the bytes that are written as its lower case, if all its characters are
    digits. -/
theorem decode_eq_ok_iff {text : String} {bytes : Candidate} :
    decode text = .ok bytes ↔ (∀ c ∈ text.toList, IsDigit c) ∧ encode bytes = text.toLower := by
  refine ⟨of_decode, fun ⟨hdigits, hlower⟩ => ?_⟩
  have heven : text.utf8ByteSize % 2 = 0 := by
    have hlength : text.toLower.toList.length = text.toList.length := by
      rw [toList_toLower, List.length_map]
    rw [utf8ByteSize_of_digits hdigits, ← hlength, ← hlower, length_toList_encode,
      Nat.mul_mod_right]
  obtain ⟨bytes', h'⟩ := exists_decode_iff.mpr ⟨heven, hdigits⟩
  rw [h', encode_inj ((of_decode h').2.trans hlower.symm)]

end DeltaDebug.Hex
