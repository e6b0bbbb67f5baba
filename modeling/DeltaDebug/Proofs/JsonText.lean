import DeltaDebug.Json.Parser
import DeltaDebug.Json.Printer

/-
  What is printed is read back. A text is judged by what the parser does with it wherever it stands:
  `Reads depth j text` says that `text` is read as `j` in two steps a character at most, with the
  rest of the input left as it was, unless that rest prolongs a number (`Stops`). This is closed
  under blanks in front (`Reads.of_blanks`), and under arrays and objects of texts that are read,
  with blanks before the closing bracket (`reads_arr`, `reads_obj`). Both printers build their texts
  in these ways, so `reads_compact` and `reads_pretty` are inductions over the value that name the
  parts and cite the closure.

  Of the values without parts, strings are read escape by escape (`escape_cases`,
  `stringBody_escape`) and whole numbers digit by digit (`significand_eq`, `unsigned_toDigits`).
  Floating numbers are left out: `Readable` is the class of values without them, with whole numbers
  of 64 bits and no more brackets than the parser opens.

  Main statement: `Readable.legible`.
-/

namespace DeltaDebug.Json

/-! ## Strings -/

theorem hexDigit?_lowerHexDigit : ∀ n < 16, hexDigit? (Text.lowerHexDigit n) = some n := by
  decide

/-- A control character is read from its escape. -/
theorem unicodeEscape_control {c : Char} (hc : c.toNat < 32) (rest : List Char) :
    unicodeEscape ('0' :: '0' :: Text.lowerHexDigit (c.toNat / 16) ::
      Text.lowerHexDigit (c.toNat % 16) :: rest) = some (c, rest) := by
  have hzero : hexDigit? '0' = some 0 := by decide
  have hhigh := hexDigit?_lowerHexDigit (c.toNat / 16) (by omega)
  have hlow := hexDigit?_lowerHexDigit (c.toNat % 16) (by omega)
  have hunit : unit ('0' :: '0' :: Text.lowerHexDigit (c.toNat / 16) ::
      Text.lowerHexDigit (c.toNat % 16) :: rest) = some (c.toNat, rest) := by
    simp only [unit, hzero, hhigh, hlow, Option.bind_eq_bind, Option.bind_some, Option.pure_def]
    rw [show (0 * 16 + 0) * 256 + (c.toNat / 16 * 16 + c.toNat % 16) = c.toNat by omega]
  simp only [unicodeEscape, hunit, Option.bind_eq_bind, Option.bind_some, Option.pure_def]
  rw [if_neg (by omega), if_neg (by omega), Char.ofNat_toNat]

/-- A character is written as a backslash and a letter, as the escape of a control character, or as
    it is. -/
theorem escape_cases (c : Char) :
    (∃ e, escape c = ['\\', e] ∧ e ≠ 'u' ∧ simpleEscape e = some c) ∨
    (c.toNat < 32 ∧ escape c = ['\\', 'u', '0', '0', Text.lowerHexDigit (c.toNat / 16),
      Text.lowerHexDigit (c.toNat % 16)]) ∨
    (32 ≤ c.toNat ∧ c ≠ '"' ∧ c ≠ '\\' ∧ escape c = [c]) := by
  by_cases hquote : c = '"'
  · exact Or.inl ⟨'"', by rw [hquote]; rfl, by decide, by rw [hquote]; rfl⟩
  by_cases hslash : c = '\\'
  · exact Or.inl ⟨'\\', by rw [hslash]; rfl, by decide, by rw [hslash]; rfl⟩
  by_cases hback : c = '\x08'
  · exact Or.inl ⟨'b', by rw [hback]; rfl, by decide, by rw [hback]; rfl⟩
  by_cases htab : c = '\t'
  · exact Or.inl ⟨'t', by rw [htab]; rfl, by decide, by rw [htab]; rfl⟩
  by_cases hline : c = '\n'
  · exact Or.inl ⟨'n', by rw [hline]; rfl, by decide, by rw [hline]; rfl⟩
  by_cases hform : c = '\x0c'
  · exact Or.inl ⟨'f', by rw [hform]; rfl, by decide, by rw [hform]; rfl⟩
  by_cases hreturn : c = '\r'
  · exact Or.inl ⟨'r', by rw [hreturn]; rfl, by decide, by rw [hreturn]; rfl⟩
  unfold escape
  rw [if_neg hquote, if_neg hslash, if_neg hback, if_neg htab, if_neg hline, if_neg hform,
    if_neg hreturn]
  by_cases hcontrol : c.toNat < 32
  · exact Or.inr (Or.inl ⟨hcontrol, if_pos hcontrol⟩)
  · exact Or.inr (Or.inr ⟨Nat.le_of_not_lt hcontrol, hquote, hslash, if_neg hcontrol⟩)

theorem stringBody_escape (fuel : Nat) (acc : List Char) (c : Char) (rest : List Char) :
    stringBody (fuel + 1) acc (escape c ++ rest) = stringBody fuel (c :: acc) rest := by
  rcases escape_cases c with ⟨e, he, hu, hsimple⟩ | ⟨hcontrol, he⟩ | ⟨hle, hquote, hslash, he⟩
  · rw [he, List.cons_append, List.cons_append, List.nil_append, stringBody, if_neg (by decide),
      if_pos rfl, hsimple]
    · rfl
    · exact hu
  · rw [he]
    simp only [List.cons_append, List.nil_append]
    rw [stringBody, if_neg (by decide), if_pos rfl]
    simp only [unicodeEscape_control hcontrol, Option.bind_eq_bind, Option.bind_some]
  · rw [he, List.cons_append, List.nil_append, stringBody.eq_def]
    dsimp only
    rw [if_neg hquote, if_neg hslash, if_neg (by omega)]

theorem stringBody_escapes (cs acc rest : List Char) {fuel : Nat} (hfuel : cs.length < fuel) :
    stringBody fuel acc (cs.flatMap escape ++ '"' :: rest) =
      some (String.ofList (acc.reverse ++ cs), rest) := by
  induction cs generalizing acc fuel with
  | nil =>
    obtain ⟨fuel, rfl⟩ := Nat.exists_eq_add_of_lt hfuel
    rw [List.append_nil]
    rfl
  | cons c cs ih =>
    obtain ⟨fuel, rfl⟩ : ∃ k, fuel = k + 1 := ⟨fuel - 1, by omega⟩
    rw [List.flatMap_cons, List.append_assoc, stringBody_escape,
      ih _ (Nat.lt_of_succ_lt_succ hfuel), List.reverse_cons, List.append_assoc]
    rfl

theorem length_le_flatMap_escape (cs : List Char) : cs.length ≤ (cs.flatMap escape).length := by
  induction cs with
  | nil => exact Nat.le_refl _
  | cons c cs ih =>
    have hone : 1 ≤ (escape c).length := by
      rcases escape_cases c with ⟨e, he, _⟩ | ⟨_, he⟩ | ⟨_, _, _, he⟩
      · simp [he]
      · simp [he]
      · simp [he]
    rw [List.flatMap_cons, List.length_append, List.length_cons]
    omega

/-- A string is read from its text, whatever follows. -/
theorem string_stringText (s : String) (rest : List Char) :
    string ((stringText s).toList ++ rest) = some (s, rest) := by
  have hlen := length_le_flatMap_escape s.toList
  unfold stringText
  rw [String.toList_ofList, List.cons_append, List.cons_append, List.append_assoc]
  have hbody := stringBody_escapes s.toList [] rest
    (show s.toList.length < (s.toList.flatMap escape ++ '"' :: rest).length + 1 by
      rw [List.length_append]
      omega)
  rw [List.reverse_nil, List.nil_append, String.ofList_toList] at hbody
  exact hbody

/-! ## Numbers -/

/-- The text does not go on with a number. -/
def Stops (rest : List Char) : Prop :=
  ∀ c ∈ rest.head?, c.isDigit = false ∧ c ≠ '.' ∧ c ≠ 'e' ∧ c ≠ 'E'

theorem stops_nil : Stops [] := by
  intro c hc
  cases hc

theorem significand_eq {ds : List Char} {acc taken : Nat}
    (h : Nat.ofDigitChars 10 ds acc ≤ significandMax) :
    significand acc taken ds = (Nat.ofDigitChars 10 ds acc, taken + ds.length, 0) := by
  induction ds generalizing acc taken with
  | nil => rfl
  | cons c ds ih =>
    rw [Nat.ofDigitChars_cons] at h ⊢
    have hnext : acc * 10 + digitValue c = 10 * acc + (c.toNat - '0'.toNat) := by
      rw [Nat.mul_comm]
      rfl
    have hle : 10 * acc + (c.toNat - '0'.toNat) ≤ significandMax := by
      rw [Nat.ofDigitChars_eq_ofDigitChars_zero] at h
      have hpow : 1 * (10 * acc + (c.toNat - '0'.toNat)) ≤
          10 ^ ds.length * (10 * acc + (c.toNat - '0'.toNat)) :=
        Nat.mul_le_mul_right _ (Nat.pow_pos (by decide))
      omega
    rw [significand, hnext, if_neg (Nat.not_lt.mpr hle), ih h, List.length_cons,
      Nat.add_assoc, Nat.add_comm 1]

/-- Only zero is written with a zero in front. -/
theorem eq_zero_of_head_toDigits {n : Nat} (h : (Nat.toDigits 10 n).head? = some '0') : n = 0 := by
  have hdigit : ∀ d < 10, d.digitChar = '0' → d = 0 := by decide
  induction n using Nat.strongRecOn with
  | ind n ih =>
    by_cases hn : n < 10
    · rw [Nat.toDigits_of_lt_base hn] at h
      exact hdigit n hn (Option.some.inj h)
    · have hle : 10 ≤ n := Nat.le_of_not_lt hn
      rw [Nat.toDigits_of_base_le (by decide) hle, List.head?_append,
        List.head?_eq_some_head Nat.toDigits_ne_nil, Option.some_or,
        ← List.head?_eq_some_head] at h
      have hzero := ih (n / 10) (by omega) h
      omega

/-- The digits of a number are read as the number, whatever follows. -/
theorem unsigned_toDigits {n : Nat} (hn : n ≤ significandMax) {rest : List Char}
    (hrest : Stops rest) (negative : Bool) :
    unsigned negative (Nat.toDigits 10 n ++ rest) =
      (wholeNumber negative n 0).map fun v => (v, rest) := by
  have hall : ∀ c ∈ Nat.toDigits 10 n, c.isDigit = true :=
    fun c hc => Nat.isDigit_of_mem_toDigits (by decide) (by decide) hc
  have hstop : rest.takeWhile Char.isDigit = [] ∧ rest.dropWhile Char.isDigit = rest := by
    cases rest with
    | nil => exact ⟨rfl, rfl⟩
    | cons c rest =>
      have hc := (hrest c rfl).1
      simp [hc]
  have htake : (Nat.toDigits 10 n ++ rest).takeWhile Char.isDigit = Nat.toDigits 10 n := by
    rw [List.takeWhile_append_of_pos hall, hstop.1, List.append_nil]
  have hdrop : (Nat.toDigits 10 n ++ rest).dropWhile Char.isDigit = rest := by
    rw [List.dropWhile_append_of_pos hall, hstop.2]
  have hvalue : significand 0 0 (Nat.toDigits 10 n) = (n, (Nat.toDigits 10 n).length, 0) := by
    rw [significand_eq, Nat.ofDigitChars_ten_toDigits, Nat.zero_add]
    rw [Nat.ofDigitChars_ten_toDigits]
    exact hn
  have hlead : ¬ (Nat.toDigits 10 n = [] ∨
      ((Nat.toDigits 10 n).head? = some '0' ∧ (Nat.toDigits 10 n).tail ≠ [])) := by
    rintro (hnil | ⟨hhead, htail⟩)
    · exact Nat.toDigits_ne_nil hnil
    · rw [eq_zero_of_head_toDigits hhead] at htail
      exact htail rfl
  unfold unsigned
  simp only [htake, hdrop, hvalue]
  rw [if_neg hlead]
  -- A fraction or an exponent would start with what cannot follow.
  split
  · exact absurd rfl (hrest _ rfl).2.1
  · exact absurd rfl (hrest _ rfl).2.2.1
  · exact absurd rfl (hrest _ rfl).2.2.2
  · cases wholeNumber negative n 0 <;> rfl

/-- The whole numbers that are read as such: 64 bits, with or without a sign. -/
def InRange (i : Int) : Prop := -9223372036854775808 ≤ i ∧ i ≤ 18446744073709551615

theorem head_toDigits_ne {n : Nat} {c : Char} (hc : c.isDigit = false) (rest : List Char) :
    (Nat.toDigits 10 n ++ rest).head? ≠ some c := by
  intro h
  have hmem : c ∈ Nat.toDigits 10 n := by
    rw [List.head?_append, List.head?_eq_some_head Nat.toDigits_ne_nil, Option.some_or] at h
    exact Option.some.inj h ▸ List.head_mem _
  have hdigit := Nat.isDigit_of_mem_toDigits (by decide) (by decide) hmem
  rw [hc] at hdigit
  cases hdigit

/-- A whole number is read from its text. -/
theorem number_toString {i : Int} (hi : InRange i) {rest : List Char} (hrest : Stops rest) :
    number ((toString i).toList ++ rest) = some (.int i, rest) := by
  obtain ⟨hlow, hhigh⟩ := hi
  rw [Int.toString_eq_repr, Int.repr_eq_if]
  by_cases hpos : 0 ≤ i
  · have hmax : i.toNat ≤ significandMax := by
      unfold significandMax
      omega
    have hunsigned := unsigned_toDigits hmax hrest false
    rw [if_pos hpos, Nat.repr_eq_ofList_toDigits, String.toList_ofList]
    unfold number
    split
    · rename_i cs heq
      exact absurd (congrArg List.head? heq) (head_toDigits_ne (by decide) rest)
    · rw [hunsigned]
      simp [wholeNumber, Int.toNat_of_nonneg hpos]
  · have hmax : (-i).toNat ≤ significandMax := by
      unfold significandMax
      omega
    have hunsigned := unsigned_toDigits hmax hrest true
    rw [if_neg hpos, String.toList_append, Nat.repr_eq_ofList_toDigits]
    simp only [String.toList_ofList]
    change unsigned true (Nat.toDigits 10 (-i).toNat ++ rest) = _
    rw [hunsigned]
    simp only [wholeNumber]
    rw [if_neg (by omega), if_neg (by decide), if_neg (by omega), if_pos (by omega)]
    rw [Int.toNat_of_nonneg (by omega), Int.neg_neg]
    rfl

/-! ## Values -/

/-- The value can be read back from its text: it has no floating numbers, its whole numbers are in
    range, and its arrays and objects nest at most `depth` deep. -/
inductive Readable : (depth : Nat) → Json → Prop
  | null {depth : Nat} : Readable depth .null
  | bool {depth : Nat} (b : Bool) : Readable depth (.bool b)
  | int {depth : Nat} {i : Int} (h : InRange i) : Readable depth (.int i)
  | str {depth : Nat} (s : String) : Readable depth (.str s)
  | arr {depth : Nat} {items : List Json} (h : ∀ v ∈ items, Readable depth v) :
      Readable (depth + 1) (.arr items)
  | obj {depth : Nat} {members : List (String × Json)} (h : ∀ m ∈ members, Readable depth m.2) :
      Readable (depth + 1) (.obj members)

theorem skipBlanks_of_not {c : Char} (h : isBlank c = false) (rest : List Char) :
    skipBlanks (c :: rest) = c :: rest := by
  unfold skipBlanks
  rw [List.dropWhile_cons_of_neg (by simp [h])]

theorem isBlank_of_isDigit {c : Char} (h : c.isDigit = true) : isBlank c = false := by
  unfold isBlank
  simp only [Bool.or_eq_false_iff, beq_eq_false_iff_ne]
  refine ⟨⟨⟨?_, ?_⟩, ?_⟩, ?_⟩
  all_goals
    rintro rfl
    exact absurd h (by decide)

/-- What starts like a number is read as one. -/
theorem value_of_numeral {c : Char} (hc : c.isDigit = true ∨ c = '-') (fuel depth : Nat)
    (cs : List Char) : value (fuel + 1) depth (c :: cs) = number (c :: cs) := by
  have hblank : isBlank c = false := by
    rcases hc with hdigit | rfl
    · exact isBlank_of_isDigit hdigit
    · rfl
  rw [value, skipBlanks_of_not hblank]
  -- Each other kind of value has a first character that is neither a digit nor a sign.
  split
  case h_7 => rfl
  all_goals
    rename_i heq
    cases heq
    exact absurd hc (by decide)

/-! ## Texts that are read -/

theorem skipBlanks_append {blanks : List Char} (h : ∀ c ∈ blanks, isBlank c = true)
    (cs : List Char) : skipBlanks (blanks ++ cs) = skipBlanks cs :=
  List.dropWhile_append_of_pos h

theorem skipBlanks_skipBlanks (cs : List Char) : skipBlanks (skipBlanks cs) = skipBlanks cs := by
  induction cs with
  | nil => rfl
  | cons c cs ih =>
    by_cases hc : isBlank c = true
    · rw [show skipBlanks (c :: cs) = skipBlanks cs from List.dropWhile_cons_of_pos hc, ih]
    · have hnot := Bool.eq_false_iff.mpr hc
      rw [skipBlanks_of_not hnot, skipBlanks_of_not hnot]

/-- Values, elements and members may have blanks in front. -/
theorem value_eq_of_skipBlanks {cs ds : List Char} (h : skipBlanks cs = skipBlanks ds)
    (fuel depth : Nat) : value fuel depth cs = value fuel depth ds := by
  cases fuel with
  | zero => rfl
  | succ fuel => rw [value, value, h]

theorem elements_eq_of_skipBlanks {cs ds : List Char} (h : skipBlanks cs = skipBlanks ds)
    (fuel depth : Nat) (acc : List Json) :
    elements fuel depth acc cs = elements fuel depth acc ds := by
  cases fuel with
  | zero => rfl
  | succ fuel => rw [elements, elements, value_eq_of_skipBlanks h]

theorem members_eq_of_skipBlanks {cs ds : List Char} (h : skipBlanks cs = skipBlanks ds)
    (fuel depth : Nat) (acc : List (String × Json)) :
    members fuel depth acc cs = members fuel depth acc ds := by
  cases fuel with
  | zero => rfl
  | succ fuel => rw [members, members, h]

/-- No element starts with the bracket that closes the array, so the look ahead for an empty array
    loses none. -/
theorem value_array {fuel depth : Nat} {cs : List Char} {found : Json × List Char}
    (h : elements fuel depth [] cs = some found) :
    value (fuel + 1) (depth + 1) ('[' :: cs) = some found := by
  have hclose (rest : List Char) : elements fuel depth [] (']' :: rest) = none := by
    rcases fuel with _ | _ | fuel <;> rfl
  rw [← elements_eq_of_skipBlanks (skipBlanks_skipBlanks cs)] at h
  rw [value, skipBlanks_of_not (by decide)]
  simp only [Nat.add_one_ne_zero, if_false, Nat.add_one_sub_one]
  split
  · rename_i rest hrest
    rw [hrest, hclose] at h
    cases h
  · exact h

theorem value_object {fuel depth : Nat} {cs : List Char} {found : Json × List Char}
    (h : members fuel depth [] cs = some found) :
    value (fuel + 1) (depth + 1) ('\x7b' :: cs) = some found := by
  have hclose (rest : List Char) : members fuel depth [] ('\x7d' :: rest) = none := by
    rcases fuel with _ | fuel <;> rfl
  rw [← members_eq_of_skipBlanks (skipBlanks_skipBlanks cs)] at h
  rw [value, skipBlanks_of_not (by decide)]
  simp only [Nat.add_one_ne_zero, if_false, Nat.add_one_sub_one]
  split
  · rename_i rest hrest
    rw [hrest, hclose] at h
    cases h
  · exact h

/-- The text is read as the value wherever it stands: it takes two steps a character at most, and
    what follows is left. -/
def Reads (depth : Nat) (j : Json) (text : List Char) : Prop :=
  ∀ ⦃fuel : Nat⦄ ⦃rest : List Char⦄, 2 * text.length ≤ fuel → Stops rest →
    value fuel depth (text ++ rest) = some (j, rest)

/-- The same of one member of an object. -/
def ReadsMember (depth : Nat) (m : String × Json) (text : List Char) : Prop :=
  ∃ blanks part, (∀ c ∈ blanks, isBlank c = true) ∧ Reads depth m.2 part ∧
    text = blanks ++ ((stringText m.1).toList ++ ':' :: part)

/-- The text lists the parts, each in a text of its own, with commas between them. -/
inductive Lists {α : Type} (Part : α → List Char → Prop) : List α → List Char → Prop
  | last {a : α} {text : List Char} (h : Part a text) : Lists Part [a] text
  | more {a : α} {text : List Char} {parts : List α} {texts : List Char} (h : Part a text)
      (hmore : Lists Part parts texts) : Lists Part (a :: parts) (text ++ ',' :: texts)

theorem Reads.of_blanks {depth : Nat} {j : Json} {blanks text : List Char}
    (hblanks : ∀ c ∈ blanks, isBlank c = true) (h : Reads depth j text) :
    Reads depth j (blanks ++ text) := by
  intro fuel rest hfuel hrest
  rw [List.length_append] at hfuel
  rw [List.append_assoc, value_eq_of_skipBlanks (skipBlanks_append hblanks (text ++ rest))]
  exact h (by omega) hrest

theorem stops_cons {c : Char} (rest : List Char)
    (h : c.isDigit = false ∧ c ≠ '.' ∧ c ≠ 'e' ∧ c ≠ 'E') : Stops (c :: rest) := by
  rintro d ⟨⟩
  exact h

theorem stops_blanks {blanks rest : List Char} (hblanks : ∀ c ∈ blanks, isBlank c = true)
    (hrest : Stops rest) : Stops (blanks ++ rest) := by
  cases blanks with
  | nil => exact hrest
  | cons c blanks =>
    have hc := hblanks c List.mem_cons_self
    simp only [isBlank, Bool.or_eq_true, beq_iff_eq] at hc
    apply stops_cons
    rcases hc with ((rfl | rfl) | rfl) | rfl <;> decide

/-- The elements of an array, up to its closing bracket. -/
theorem elements_of_lists {depth : Nat} {items : List Json} {text blanks : List Char}
    (hblanks : ∀ c ∈ blanks, isBlank c = true) (h : Lists (Reads depth) items text)
    {fuel : Nat} (hfuel : 2 * text.length < fuel) (acc : List Json) (rest : List Char) :
    elements fuel depth acc (text ++ (blanks ++ ']' :: rest)) =
      some (.arr (acc.reverse ++ items), rest) := by
  induction h generalizing fuel acc with
  | @last item text hitem =>
    obtain ⟨fuel, rfl⟩ : ∃ k, fuel = k + 1 := ⟨fuel - 1, by omega⟩
    have hvalue := hitem (show 2 * text.length ≤ fuel by omega)
      (stops_blanks hblanks (stops_cons rest (c := ']') (by decide)))
    rw [elements, hvalue]
    dsimp only
    rw [skipBlanks_append hblanks, skipBlanks_of_not (by decide)]
    simp only [List.reverse_cons]
  | @more item text items texts hitem hmore ih =>
    -- The comma pays for the step that reads this item.
    rw [List.length_append, List.length_cons] at hfuel
    obtain ⟨fuel, rfl⟩ : ∃ k, fuel = k + 1 := ⟨fuel - 1, by omega⟩
    have hvalue := hitem (show 2 * text.length ≤ fuel by omega)
      (stops_cons (texts ++ (blanks ++ ']' :: rest)) (c := ',') (by decide))
    rw [List.append_assoc, List.cons_append, elements, hvalue]
    dsimp only
    rw [skipBlanks_of_not (by decide)]
    change elements fuel depth (item :: acc) (texts ++ (blanks ++ ']' :: rest)) = _
    rw [ih (by omega), List.reverse_cons, List.append_assoc]
    rfl

/-- What may stand behind a member: a comma and more members, or the closing brace. -/
def afterMember (fuel depth : Nat) (acc : List (String × Json)) (rest : List Char) :
    Option (Json × List Char) :=
  match skipBlanks rest with
  | ',' :: rest => members fuel depth acc rest
  | '\x7d' :: rest => some (.obj acc.reverse, rest)
  | _ => none

theorem members_of_readsMember {depth : Nat} {m : String × Json} {text : List Char}
    (h : ReadsMember depth m text) {fuel : Nat} (hfuel : 2 * text.length ≤ fuel)
    (acc : List (String × Json)) {rest : List Char} (hrest : Stops rest) :
    members (fuel + 1) depth acc (text ++ rest) = afterMember fuel depth (m :: acc) rest := by
  obtain ⟨key, j⟩ := m
  obtain ⟨blanks, part, hblanks, hpart, rfl⟩ := h
  have hkey : skipBlanks ((stringText key).toList ++ (':' :: (part ++ rest))) =
      (stringText key).toList ++ (':' :: (part ++ rest)) := by
    unfold stringText
    rw [String.toList_ofList]
    exact skipBlanks_of_not (by decide) _
  have hvalue : value fuel depth (part ++ rest) = some (j, rest) := by
    simp only [List.length_append, List.length_cons] at hfuel
    exact hpart (by omega) hrest
  rw [List.append_assoc, List.append_assoc, List.cons_append, members, skipBlanks_append hblanks,
    hkey, string_stringText]
  dsimp only
  rw [skipBlanks_of_not (by decide)]
  simp only [hvalue]
  rfl

/-- The members of an object, up to its closing brace. -/
theorem members_of_lists {depth : Nat} {parts : List (String × Json)} {text blanks : List Char}
    (hblanks : ∀ c ∈ blanks, isBlank c = true) (h : Lists (ReadsMember depth) parts text)
    {fuel : Nat} (hfuel : 2 * text.length < fuel) (acc : List (String × Json))
    (rest : List Char) :
    members fuel depth acc (text ++ (blanks ++ '\x7d' :: rest)) =
      some (.obj (acc.reverse ++ parts), rest) := by
  induction h generalizing fuel acc with
  | @last m text hm =>
    obtain ⟨fuel, rfl⟩ : ∃ k, fuel = k + 1 := ⟨fuel - 1, by omega⟩
    rw [members_of_readsMember hm (by omega) acc
      (stops_blanks hblanks (stops_cons rest (by decide))), afterMember, skipBlanks_append hblanks,
      skipBlanks_of_not (by decide)]
    simp only [List.reverse_cons]
  | @more m text parts texts hm hmore ih =>
    rw [List.length_append, List.length_cons] at hfuel
    obtain ⟨fuel, rfl⟩ : ∃ k, fuel = k + 1 := ⟨fuel - 1, by omega⟩
    rw [List.append_assoc, List.cons_append, members_of_readsMember hm (by omega) acc
      (stops_cons _ (by decide)), afterMember, skipBlanks_of_not (by decide)]
    change members fuel depth (m :: acc) (texts ++ (blanks ++ '\x7d' :: rest)) = _
    rw [ih (by omega), List.reverse_cons, List.append_assoc]
    rfl

theorem reads_arr {depth : Nat} {items : List Json} {text : List Char} (blanks : List Char)
    (hblanks : ∀ c ∈ blanks, isBlank c = true) (h : Lists (Reads depth) items text) :
    Reads (depth + 1) (.arr items) ('[' :: (text ++ (blanks ++ [']']))) := by
  intro fuel rest hfuel hrest
  simp only [List.length_cons, List.length_append] at hfuel
  obtain ⟨fuel, rfl⟩ : ∃ k, fuel = k + 1 := ⟨fuel - 1, by omega⟩
  simp only [List.cons_append, List.append_assoc, List.nil_append]
  exact value_array (elements_of_lists hblanks h (by omega) [] rest)

theorem reads_obj {depth : Nat} {parts : List (String × Json)} {text : List Char}
    (blanks : List Char) (hblanks : ∀ c ∈ blanks, isBlank c = true)
    (h : Lists (ReadsMember depth) parts text) :
    Reads (depth + 1) (.obj parts) ('\x7b' :: (text ++ (blanks ++ ['\x7d']))) := by
  intro fuel rest hfuel hrest
  simp only [List.length_cons, List.length_append] at hfuel
  obtain ⟨fuel, rfl⟩ : ∃ k, fuel = k + 1 := ⟨fuel - 1, by omega⟩
  simp only [List.cons_append, List.append_assoc, List.nil_append]
  exact value_object (members_of_lists hblanks h (by omega) [] rest)

/-- A text of a value without parts is read in one step. -/
theorem reads_of_step {depth : Nat} {j : Json} {text : List Char} (hne : text ≠ [])
    (h : ∀ fuel rest, Stops rest → value (fuel + 1) depth (text ++ rest) = some (j, rest)) :
    Reads depth j text := by
  intro fuel rest hfuel hrest
  have hlen := List.length_pos_iff.mpr hne
  obtain ⟨fuel, rfl⟩ : ∃ k, fuel = k + 1 := ⟨fuel - 1, by omega⟩
  exact h fuel rest hrest

theorem reads_null (depth : Nat) : Reads depth .null "null".toList :=
  reads_of_step (by decide) fun _ _ _ => rfl

theorem reads_bool (depth : Nat) (b : Bool) :
    Reads depth (.bool b) (scalarText (.bool b)).toList := by
  cases b
  · exact reads_of_step (by decide) fun _ _ _ => rfl
  · exact reads_of_step (by decide) fun _ _ _ => rfl

theorem reads_empty_arr (depth : Nat) : Reads (depth + 1) (.arr []) ['[', ']'] :=
  reads_of_step (by decide) fun _ _ _ => rfl

theorem reads_empty_obj (depth : Nat) : Reads (depth + 1) (.obj []) ['\x7b', '\x7d'] :=
  reads_of_step (by decide) fun _ _ _ => rfl

theorem reads_str (depth : Nat) (s : String) : Reads depth (.str s) (stringText s).toList := by
  have htext : (stringText s).toList = '"' :: (s.toList.flatMap escape ++ ['"']) := by
    unfold stringText
    rw [String.toList_ofList, List.cons_append]
  rw [htext]
  refine reads_of_step (List.cons_ne_nil _ _) fun fuel rest hrest => ?_
  have hread := string_stringText s rest
  rw [htext, List.cons_append] at hread
  rw [List.cons_append, value, skipBlanks_of_not (by decide)]
  change (string ('"' :: (s.toList.flatMap escape ++ ['"'] ++ rest))).map _ = _
  rw [hread]
  rfl

/-- A whole number starts with a digit or a sign. -/
theorem toList_toString_eq_cons (i : Int) :
    ∃ c cs, (toString i).toList = c :: cs ∧ (c.isDigit = true ∨ c = '-') := by
  rw [Int.toString_eq_repr, Int.repr_eq_if]
  split
  · rw [Nat.repr_eq_ofList_toDigits, String.toList_ofList]
    obtain ⟨c, cs, hcs⟩ := List.exists_cons_of_ne_nil (Nat.toDigits_ne_nil (b := 10) (n := i.toNat))
    refine ⟨c, cs, hcs, Or.inl ?_⟩
    exact Nat.isDigit_of_mem_toDigits (b := 10) (n := i.toNat) (by decide) (by decide)
      (hcs ▸ List.mem_cons_self)
  · rw [String.toList_append]
    exact ⟨'-', (-i).toNat.repr.toList, rfl, Or.inr rfl⟩

theorem reads_int (depth : Nat) {i : Int} (hi : InRange i) :
    Reads depth (.int i) (toString i).toList := by
  obtain ⟨c, cs, htext, hc⟩ := toList_toString_eq_cons i
  rw [htext]
  refine reads_of_step (List.cons_ne_nil _ _) fun fuel rest hrest => ?_
  have hread := number_toString hi hrest
  rw [htext, List.cons_append] at hread
  rw [List.cons_append, value_of_numeral hc, hread]

/-! ## The text on one line -/

theorem lists_compactItems {depth : Nat} {items : List Json} (hne : items ≠ [])
    (h : ∀ v ∈ items, Reads depth v (compact v).toList) :
    Lists (Reads depth) items (compactItems items).toList := by
  induction items with
  | nil => exact absurd rfl hne
  | cons v items ih =>
    have hv := h v List.mem_cons_self
    cases items with
    | nil =>
      rw [compactItems]
      exact .last hv
    | cons w items =>
      rw [compactItems, String.toList_append, String.toList_append, List.append_assoc]
      exact .more hv (ih (List.cons_ne_nil _ _) fun u hu => h u (List.mem_cons_of_mem v hu))

theorem lists_compactMembers {depth : Nat} {parts : List (String × Json)} (hne : parts ≠ [])
    (h : ∀ m ∈ parts, Reads depth m.2 (compact m.2).toList) :
    Lists (ReadsMember depth) parts (compactMembers parts).toList := by
  induction parts with
  | nil => exact absurd rfl hne
  | cons m parts ih =>
    obtain ⟨key, v⟩ := m
    have hm : ReadsMember depth (key, v) (stringText key ++ ":" ++ compact v).toList := by
      refine ⟨[], (compact v).toList, by simp, h (key, v) List.mem_cons_self, ?_⟩
      rw [String.toList_append, String.toList_append, List.append_assoc, List.nil_append]
      rfl
    cases parts with
    | nil =>
      rw [compactMembers]
      exact .last hm
    | cons n parts =>
      rw [compactMembers, String.toList_append, String.toList_append, List.append_assoc]
      exact .more hm (ih (List.cons_ne_nil _ _) fun u hu => h u (List.mem_cons_of_mem _ hu))

/-- The text on one line is read back. -/
theorem reads_compact {depth : Nat} {j : Json} (h : Readable depth j) :
    Reads depth j (compact j).toList := by
  induction h with
  | null => exact reads_null _
  | bool b => exact reads_bool _ b
  | int hi => exact reads_int _ hi
  | str s => exact reads_str _ s
  | @arr depth items _ ih =>
    by_cases hne : items = []
    · subst hne
      exact reads_empty_arr depth
    · rw [compact, String.toList_append, String.toList_append, List.append_assoc]
      exact reads_arr [] (by simp) (lists_compactItems hne ih)
  | @obj depth parts _ ih =>
    by_cases hne : parts = []
    · subst hne
      exact reads_empty_obj depth
    · rw [compact, String.toList_append, String.toList_append, List.append_assoc]
      exact reads_obj [] (by simp) (lists_compactMembers hne ih)

/-! ## The text over several lines -/

theorem isBlank_newline (level : Nat) : ∀ c ∈ (newline level).toList, isBlank c = true := by
  intro c hc
  have htext : (newline level).toList = '\n' :: List.replicate (2 * level) ' ' := by
    simp only [newline, String.toList_append, String.toList_ofList]
    rfl
  rw [htext, List.mem_cons] at hc
  rcases hc with rfl | hspace
  · decide
  · rw [List.eq_of_mem_replicate hspace]
    decide

/-- The rest of the items, behind the text of the first. -/
theorem lists_prettyItems {depth level : Nat} {items : List Json}
    (h : ∀ v ∈ items, Reads depth v (pretty level v).toList) {first : Json} {text : List Char}
    (hfirst : Reads depth first text) :
    Lists (Reads depth) (first :: items) (text ++ (prettyItems level items).toList) := by
  induction items generalizing first text with
  | nil =>
    rw [prettyItems, String.toList_empty, List.append_nil]
    exact .last hfirst
  | cons v items ih =>
    have hv := (h v List.mem_cons_self).of_blanks (isBlank_newline level)
    have hrest := ih (fun u hu => h u (List.mem_cons_of_mem v hu)) hv
    rw [prettyItems]
    simp only [String.toList_append, List.append_assoc] at hrest ⊢
    exact .more hfirst hrest

/-- A member on a line of its own. -/
theorem readsMember_pretty {depth level : Nat} {m : String × Json}
    (h : Reads depth m.2 (pretty level m.2).toList) :
    ReadsMember depth m ((newline level).toList ++ ((stringText m.1).toList ++
      ':' :: ' ' :: (pretty level m.2).toList)) :=
  ⟨_, ' ' :: (pretty level m.2).toList, isBlank_newline level,
    h.of_blanks (List.forall_mem_singleton.mpr (show isBlank ' ' = true from rfl)), rfl⟩

theorem lists_prettyMembers {depth level : Nat} {parts : List (String × Json)}
    (h : ∀ m ∈ parts, Reads depth m.2 (pretty level m.2).toList) {first : String × Json}
    {text : List Char} (hfirst : ReadsMember depth first text) :
    Lists (ReadsMember depth) (first :: parts) (text ++ (prettyMembers level parts).toList) := by
  induction parts generalizing first text with
  | nil =>
    rw [prettyMembers, String.toList_empty, List.append_nil]
    exact .last hfirst
  | cons m parts ih =>
    have hm := readsMember_pretty (h m List.mem_cons_self)
    have hrest := ih (fun u hu => h u (List.mem_cons_of_mem m hu)) hm
    rw [prettyMembers]
    simp only [String.toList_append, List.append_assoc, List.cons_append] at hrest ⊢
    exact .more hfirst hrest

/-- The text over several lines is read back, whatever its indent. -/
theorem reads_pretty {depth : Nat} {j : Json} (h : Readable depth j) (level : Nat) :
    Reads depth j (pretty level j).toList := by
  induction h generalizing level with
  | null => exact reads_null _
  | bool b => exact reads_bool _ b
  | int hi => exact reads_int _ hi
  | str s => exact reads_str _ s
  | @arr depth items _ ih =>
    cases items with
    | nil =>
      rw [pretty]
      exact reads_empty_arr depth
    | cons v items =>
      have hv := (ih v List.mem_cons_self (level + 1)).of_blanks (isBlank_newline (level + 1))
      have hitems := lists_prettyItems (fun u hu => ih u (List.mem_cons_of_mem v hu) (level + 1)) hv
      have harr := reads_arr _ (isBlank_newline level) hitems
      rw [pretty]
      simp only [String.toList_append, List.append_assoc] at harr ⊢
      exact harr
  | @obj depth parts _ ih =>
    cases parts with
    | nil =>
      rw [pretty]
      exact reads_empty_obj depth
    | cons m parts =>
      have hm := readsMember_pretty (ih m List.mem_cons_self (level + 1))
      have hparts :=
        lists_prettyMembers (fun u hu => ih u (List.mem_cons_of_mem m hu) (level + 1)) hm
      have hobj := reads_obj _ (isBlank_newline level) hparts
      rw [pretty]
      simp only [String.toList_append, List.append_assoc, List.cons_append] at hobj ⊢
      exact hobj

/-! ## Whole texts -/

theorem parse_of_reads {j : Json} {text : String} (h : Reads maxDepth j text.toList) :
    parse text = some j := by
  have hvalue := h (show 2 * text.toList.length ≤ 2 * text.toList.length + 2 by omega) stops_nil
  rw [List.append_nil] at hvalue
  unfold parse
  simp only [hvalue]
  rfl

/-- The value is read back from both of its texts. -/
def Legible (j : Json) : Prop :=
  parse (compact j) = some j ∧ ∀ level, parse (pretty level j) = some j

theorem Readable.legible {j : Json} (h : Readable maxDepth j) : Legible j :=
  ⟨parse_of_reads (reads_compact h), fun level => parse_of_reads (reads_pretty h level)⟩

end DeltaDebug.Json
