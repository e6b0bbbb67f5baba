import DeltaDebug.Proofs.Hex
import DeltaDebug.Proofs.JsonText
import DeltaDebug.Result.Format
import Mathlib.Algebra.Group.Nat.Defs
import Mathlib.Data.List.Nodup

/-
  The format of results. Reading an object goes through its members in the order of their names;
  sorting keeps what is found under each name (`sorted_spec`), so an object counts only by its
  look-ups. The reader is opened once for each kind of value:

  * `ofSource_eq_ok_iff`: the nine fields are read one by one, from wherever they come;
  * `ofJson_obj_eq_ok_iff`: an object is read as `r` exactly if each field of `r` is found under its
    name;
  * `ofJson_arr_eq_ok_iff`: an array is read as `r` exactly if it holds the fields of `r` in order
    and nothing else.

  `Carries` says what both kinds have in common where only the bytes are open, and
  `Carries.ofJson_eq_ok_iff` leaves of the reader only the question whether a text is one of digits,
  which the lemmas on hexadecimal texts answer. A value written by `Written` carries the numbers,
  and is read back from its own text where they take at most 64 bits.

  Main statement: `format_round_trip`.
-/

namespace DeltaDebug

/-! ## Members of an object -/

namespace Json

theorem member?_cons (m : String × Json) (ms : List (String × Json)) (name : String) :
    member? (m :: ms) name =
      (member? ms name).or (if m.1 = name then some m.2 else none) := by
  have hfold (found : Option Json) :
      ms.foldl (fun found m => if m.1 = name then some m.2 else found) found =
        (member? ms name).or found := by
    unfold member?
    induction ms generalizing found with
    | nil => rfl
    | cons n ms ih =>
      rw [List.foldl_cons, List.foldl_cons, ih, ih (if n.1 = name then some n.2 else none)]
      split
      · rw [Option.or_some]
        rfl
      · rw [Option.or_none]
  exact hfold _

theorem member?_eq_none {ms : List (String × Json)} {name : String} (h : ∀ m ∈ ms, m.1 ≠ name) :
    member? ms name = none := by
  induction ms with
  | nil => rfl
  | cons m ms ih =>
    rw [member?_cons, ih fun n hn => h n (List.mem_cons_of_mem m hn),
      if_neg (h m List.mem_cons_self)]
    rfl

/-- A member whose name no other member has is the one that is found. -/
theorem member?_of_unique {ms : List (String × Json)} {m : String × Json} (hm : m ∈ ms)
    (hunique : ∀ n ∈ ms, n.1 = m.1 → n = m) : member? ms m.1 = some m.2 := by
  induction ms with
  | nil => cases hm
  | cons n ms ih =>
    rw [member?_cons]
    by_cases hmem : m ∈ ms
    · rw [ih hmem fun k hk => hunique k (List.mem_cons_of_mem n hk)]
      rfl
    · have hnone : member? ms m.1 = none :=
        member?_eq_none fun k hk heq => hmem (hunique k (List.mem_cons_of_mem n hk) heq ▸ hk)
      obtain rfl : m = n := (List.mem_cons.mp hm).resolve_right hmem
      rw [hnone, if_pos rfl]
      rfl

/-- The members stand in the order of their names, each name once. -/
def Ascending (ms : List (String × Json)) : Prop := ms.Pairwise fun m n => m.1 < n.1

theorem Ascending.eq_of_mem {ms : List (String × Json)} (hms : Ascending ms) {m n : String × Json}
    (hm : m ∈ ms) (hn : n ∈ ms) (h : n.1 = m.1) : n = m := by
  induction ms with
  | nil => cases hm
  | cons k ms ih =>
    obtain ⟨hhead, htail⟩ := List.pairwise_cons.mp hms
    rcases List.mem_cons.mp hm with rfl | hm'
    · rcases List.mem_cons.mp hn with rfl | hn'
      · rfl
      · exact absurd (h ▸ hhead n hn') (String.lt_irrefl _)
    · rcases List.mem_cons.mp hn with rfl | hn'
      · exact absurd (h ▸ hhead m hm') (String.lt_irrefl _)
      · exact ih htail hm' hn'

theorem mem_insert {key : String} {v : Json} {ms : List (String × Json)} {m : String × Json}
    (h : m ∈ insert key v ms) : m = (key, v) ∨ m ∈ ms := by
  fun_induction insert key v ms with
  | case1 => exact Or.inl (List.mem_singleton.mp h)
  | case2 w rest =>
    rcases List.mem_cons.mp h with rfl | h
    · exact Or.inl rfl
    · exact Or.inr (List.mem_cons_of_mem _ h)
  | case3 k w rest hne hlt =>
    rcases List.mem_cons.mp h with rfl | h
    · exact Or.inl rfl
    · exact Or.inr h
  | case4 k w rest hne hnlt ih =>
    rcases List.mem_cons.mp h with rfl | h
    · exact Or.inr List.mem_cons_self
    · exact (ih h).imp_right (List.mem_cons_of_mem _)

theorem ascending_insert {ms : List (String × Json)} (hms : Ascending ms) (key : String)
    (v : Json) : Ascending (insert key v ms) := by
  fun_induction insert key v ms with
  | case1 => exact List.pairwise_singleton _ _
  | case2 w rest =>
    obtain ⟨hhead, htail⟩ := List.pairwise_cons.mp hms
    exact List.pairwise_cons.mpr ⟨hhead, htail⟩
  | case3 k w rest hne hlt =>
    obtain ⟨hhead, _⟩ := List.pairwise_cons.mp hms
    refine List.pairwise_cons.mpr ⟨fun m hm => ?_, hms⟩
    rcases List.mem_cons.mp hm with rfl | hm
    · exact hlt
    · exact String.lt_trans hlt (hhead m hm)
  | case4 k w rest hne hnlt ih =>
    obtain ⟨hhead, htail⟩ := List.pairwise_cons.mp hms
    refine List.pairwise_cons.mpr ⟨fun m hm => ?_, ih htail⟩
    rcases mem_insert hm with rfl | hm
    · by_cases hlt : k < key
      · exact hlt
      · exact absurd (String.le_antisymm (String.not_lt.mp hlt) (String.not_lt.mp hnlt)) hne
    · exact hhead m hm

theorem member?_insert {ms : List (String × Json)} (hms : Ascending ms) (key : String) (v : Json)
    (name : String) :
    member? (insert key v ms) name = if key = name then some v else member? ms name := by
  fun_induction insert key v ms with
  | case1 => rfl
  | case2 w rest =>
    obtain ⟨hhead, _⟩ := List.pairwise_cons.mp hms
    rw [member?_cons, member?_cons]
    by_cases hname : key = name
    · have hnone : member? rest name = none :=
        member?_eq_none fun m hm heq => String.lt_irrefl _ ((heq.trans hname.symm) ▸ hhead m hm)
      simp only [hname, hnone, if_true]
      rfl
    · simp only [hname, if_false]
  | case3 k w rest hne hlt =>
    rw [member?_cons]
    by_cases hname : key = name
    · have hnone : member? ((k, w) :: rest) name = none := by
        refine member?_eq_none fun m hm heq => ?_
        rcases List.mem_cons.mp hm with rfl | hm
        · exact hne (hname.trans heq.symm)
        · have hkm := (List.pairwise_cons.mp hms).1 m hm
          exact String.lt_asymm hlt ((heq.trans hname.symm) ▸ hkm)
      simp only [hname, hnone, if_true]
      rfl
    · simp only [hname, if_false, Option.or_none]
  | case4 k w rest hne hnlt ih =>
    rw [member?_cons, member?_cons, ih (List.pairwise_cons.mp hms).2]
    by_cases hname : key = name
    · have hk : k ≠ name := fun h => hne (hname.trans h.symm)
      simp only [hname, hk, if_true, if_false, Option.or_none]
    · simp only [hname, if_false]

/-- Sorting keeps what is found under each name, and no name is left twice. -/
theorem sorted_spec (members : List (String × Json)) :
    Ascending (sorted members) ∧ ∀ name, member? (sorted members) name = member? members name := by
  have hfold (acc : List (String × Json)) (hacc : Ascending acc) :
      Ascending (members.foldl (fun acc m => insert m.1 m.2 acc) acc) ∧
      ∀ name, member? (members.foldl (fun acc m => insert m.1 m.2 acc) acc) name =
        (member? members name).or (member? acc name) := by
    induction members generalizing acc with
    | nil => exact ⟨hacc, fun name => rfl⟩
    | cons m members ih =>
      obtain ⟨hascending, hmember⟩ := ih _ (ascending_insert hacc m.1 m.2)
      refine ⟨hascending, fun name => ?_⟩
      rw [List.foldl_cons, hmember, member?_insert hacc, member?_cons, Option.or_assoc]
      split <;> rfl
  obtain ⟨hascending, hmember⟩ := hfold [] List.Pairwise.nil
  refine ⟨hascending, fun name => ?_⟩
  rw [sorted, hmember]
  exact Option.or_none

theorem decodeNat_eq_ok_iff {kind : String} {j : Json} {n : Nat} :
    decodeNat kind j = .ok n ↔ j = .ofNat n := by
  constructor
  · intro h
    unfold decodeNat at h
    split at h
    · rename_i i
      split at h
      · rename_i hi
        rw [← Except.ok.inj h, ofNat, Int.toNat_of_nonneg hi]
      · cases h
    · cases h
  · rintro rfl
    rw [ofNat, decodeNat, if_pos (Int.natCast_nonneg n), Int.toNat_natCast]

theorem decodeBytes_eq_ok_iff {j : Json} {bytes : Candidate} :
    decodeBytes j = .ok bytes ↔ ∃ text, j = .str text ∧ Hex.decode text = .ok bytes := by
  constructor
  · intro h
    unfold decodeBytes at h
    split at h
    · rename_i text
      split at h
      · rename_i found hfound
        exact ⟨text, rfl, Except.ok.inj h ▸ hfound⟩
      · cases h
    · cases h
  · rintro ⟨text, rfl, htext⟩
    rw [decodeBytes, htext]

end Json

namespace Result

open Json (DecodeError)

/-! ## What is read -/

theorem checkMembers_eq_ok_iff {ms : List (String × Json)} :
    checkMembers ms = .ok () ↔ ∀ m ∈ ms, checkMember m = .ok () := by
  induction ms with
  | nil => simp [checkMembers]
  | cons m ms ih =>
    rw [checkMembers, List.forall_mem_cons, ← ih]
    split
    · rename_i hm
      simp [hm]
    · rename_i e hm
      simp [hm]

theorem bind_eq_ok_iff {ε α β : Type} {x : Except ε α} {f : α → Except ε β} {b : β} :
    x >>= f = .ok b ↔ ∃ a, x = .ok a ∧ f a = .ok b := by
  cases x with
  | error e => simp [bind, Except.bind]
  | ok a => simp [bind, Except.bind]

/-- The number fields as they are written. -/
def numbers (r : Result) : List (String × Json) := r.counts.map fun (name, n) => (name, .ofNat n)

/-- The nine fields in order, with `minimized` for the bytes. -/
def fieldsWith (r : Result) (minimized : Json) : List (String × Json) :=
  ("minimized", minimized) :: r.numbers

/-- A result is read from a source exactly if the source has its fields at their places. -/
theorem ofSource_eq_ok_iff {field : Source} {r : Result} :
    ofSource field = .ok r ↔
      (∃ text, field 0 "minimized" = .ok (.str text) ∧ Hex.decode text = .ok r.minimized) ∧
      ∀ m ∈ r.numbers.zipIdx 1, field m.2 m.1.1 = .ok m.1.2 := by
  unfold ofSource
  simp only [bind_eq_ok_iff, Json.decodeNat_eq_ok_iff, Json.decodeBytes_eq_ok_iff, exists_eq_right,
    pure, Except.pure, Except.ok.injEq]
  simp only [numbers, counts, List.map_cons, List.map_nil, List.zipIdx_cons, List.zipIdx_nil,
    List.forall_mem_cons, Nat.reduceAdd]
  constructor
  · rintro ⟨_, hfield, _, ⟨text, rfl, htext⟩, _, h1, _, h2, _, h3, _, h4, _, h5, _, h6, _, h7, _,
      h8, rfl⟩
    exact ⟨⟨text, hfield, htext⟩, h1, h2, h3, h4, h5, h6, h7, h8, List.forall_mem_nil _⟩
  · rintro ⟨⟨text, hfield, htext⟩, h1, h2, h3, h4, h5, h6, h7, h8, -⟩
    exact ⟨_, hfield, _, ⟨text, rfl, htext⟩, _, h1, _, h2, _, h3, _, h4, _, h5, _, h6, _, h7, _, h8,
      rfl⟩

theorem map_fst_numbers (r : Result) : "minimized" :: r.numbers.map Prod.fst = fieldNames := rfl

/-- Members that have the fields of a result under their names are all in order. -/
theorem checkMembers_of_fields {members : List (String × Json)} {r : Result} {text : String}
    (hname : Json.member? members "minimized" = some (.str text))
    (htext : Hex.decode text = .ok r.minimized)
    (hnumbers : ∀ m ∈ r.numbers, Json.member? members m.1 = some m.2) :
    checkMembers (Json.sorted members) = .ok () := by
  obtain ⟨hascending, hmember⟩ := Json.sorted_spec members
  refine checkMembers_eq_ok_iff.mpr fun m hm => ?_
  have hfound : Json.member? members m.1 = some m.2 := by
    rw [← hmember]
    exact Json.member?_of_unique hm fun n hn => hascending.eq_of_mem hm hn
  -- A name is judged by the value that is found under it, and for each of the nine that is right.
  unfold checkMember
  by_cases hminimized : m.1 = "minimized"
  · rw [hminimized, hname] at hfound
    have hbytes : Json.decodeBytes m.2 = .ok r.minimized :=
      Json.decodeBytes_eq_ok_iff.mpr ⟨text, (Option.some.inj hfound).symm, htext⟩
    rw [if_pos hminimized, hbytes]
    rfl
  by_cases hfield : m.1 ∈ fieldNames
  · rw [← map_fst_numbers r, List.mem_cons] at hfield
    obtain ⟨number, hnumber, hsame⟩ := List.mem_map.mp (hfield.resolve_left hminimized)
    have hvalue : m.2 = number.2 := by
      have hlookup := hnumbers number hnumber
      rw [hsame, hfound] at hlookup
      exact Option.some.inj hlookup
    obtain ⟨count, _, rfl⟩ := List.mem_map.mp hnumber
    rw [if_neg hminimized, if_pos (hsame ▸ List.mem_cons_of_mem _ (List.mem_map_of_mem hnumber)),
      Json.decodeNat_eq_ok_iff.mpr hvalue]
    rfl
  · rw [if_neg hminimized, if_neg hfield]

/-- What was looked for, or the error of not finding it. -/
def found (v : Option Json) (missing : DecodeError) : Except DecodeError Json :=
  match v with
  | some v => .ok v
  | none => .error missing

theorem found_eq_ok_iff {v : Option Json} {missing : DecodeError} {j : Json} :
    found v missing = .ok j ↔ v = some j := by
  cases v with
  | none => simp [found]
  | some v => simp [found]

/-- The fields by their names. -/
def memberSource (members : List (String × Json)) : Source := fun _ name =>
  found (Json.member? members name) (.missingField name)

/-- The fields by their places. -/
def itemSource (items : List Json) : Source := fun index _ =>
  found items[index]? (.length items.length "struct MinimizationResult with 9 elements")

theorem ofJson_obj (members : List (String × Json)) :
    ofJson (.obj members) = (checkMembers (Json.sorted members) >>= fun _ =>
      ofSource (memberSource (Json.sorted members))) := rfl

theorem ofJson_arr (items : List Json) :
    ofJson (.arr items) = (ofSource (itemSource items) >>= fun r =>
      if 9 < items.length then .error (.length items.length "fewer elements in array")
      else .ok r) := rfl

/-- A result is read from an object exactly if the object has its fields under their names. -/
theorem ofJson_obj_eq_ok_iff {members : List (String × Json)} {r : Result} :
    ofJson (.obj members) = .ok r ↔
      (∃ text, Json.member? members "minimized" = some (.str text) ∧
        Hex.decode text = .ok r.minimized) ∧
      ∀ m ∈ r.numbers, Json.member? members m.1 = some m.2 := by
  have hplaces : (∀ m ∈ r.numbers.zipIdx 1, Json.member? members m.1.1 = some m.1.2) ↔
      ∀ m ∈ r.numbers, Json.member? members m.1 = some m.2 := by
    rw [← List.forall_mem_map (f := Prod.fst)
      (P := fun m : String × Json => Json.member? members m.1 = some m.2), List.zipIdx_map_fst]
  simp only [ofJson_obj, bind_eq_ok_iff, ofSource_eq_ok_iff, memberSource, found_eq_ok_iff,
    (Json.sorted_spec members).2, hplaces]
  constructor
  · rintro ⟨_, _, hread⟩
    exact hread
  · rintro ⟨⟨text, hname, htext⟩, hnumbers⟩
    exact ⟨(), checkMembers_of_fields hname htext hnumbers, ⟨text, hname, htext⟩, hnumbers⟩

/-- The parts stand at their places from `k` on, and nothing stands behind them. -/
theorem drop_eq_map_iff {α : Type} {items : List Json} {f : α → Json} {l : List α} {k : Nat} :
    items.drop k = l.map f ↔
      (∀ m ∈ l.zipIdx k, items[m.2]? = some (f m.1)) ∧ items.length ≤ k + l.length := by
  induction l generalizing k with
  | nil =>
    rw [List.map_nil, List.drop_eq_nil_iff, List.length_nil, Nat.add_zero, List.zipIdx_nil]
    exact ⟨fun h => ⟨List.forall_mem_nil _, h⟩, fun h => h.2⟩
  | cons a l ih =>
    have hlen : k + (a :: l).length = k + 1 + l.length := by
      rw [List.length_cons]
      omega
    rw [List.map_cons, List.zipIdx_cons, List.forall_mem_cons, hlen, and_assoc, ← ih]
    constructor
    · intro h
      have hhead : items[k]? = some (f a) := by
        rw [← List.head?_drop, h]
        rfl
      have htail : items.drop (k + 1) = l.map f := by
        rw [← List.tail_drop, h]
        rfl
      exact ⟨hhead, htail⟩
    · rintro ⟨hhead, htail⟩
      obtain ⟨hlt, hget⟩ := List.getElem?_eq_some_iff.mp hhead
      rw [List.drop_eq_getElem_cons hlt, hget, htail]

/-- A result is read from an array exactly if the array holds its fields and nothing else. -/
theorem ofJson_arr_eq_ok_iff {items : List Json} {r : Result} :
    ofJson (.arr items) = .ok r ↔ ∃ text, items = (r.fieldsWith (.str text)).map Prod.snd ∧
      Hex.decode text = .ok r.minimized := by
  have hshort (r' : Result) :
      (if 9 < items.length
        then Except.error (DecodeError.length items.length "fewer elements in array")
        else .ok r') = .ok r ↔ r' = r ∧ items.length ≤ 9 := by
    by_cases hlen : 9 < items.length
    · simp [hlen]
    · simp [hlen]
      omega
  have hitems (text : String) : items = (r.fieldsWith (.str text)).map Prod.snd ↔
      items[0]? = some (.str text) ∧ items.drop 1 = r.numbers.map Prod.snd := by
    cases items <;> simp [fieldsWith]
  simp only [ofJson_arr, bind_eq_ok_iff, ofSource_eq_ok_iff, itemSource, found_eq_ok_iff, hshort,
    hitems, drop_eq_map_iff]
  constructor
  · rintro ⟨_, ⟨⟨text, hname, htext⟩, hnumbers⟩, rfl, hlen⟩
    exact ⟨text, ⟨hname, hnumbers, hlen⟩, htext⟩
  · rintro ⟨text, ⟨hname, hnumbers, hlen⟩, htext⟩
    exact ⟨r, ⟨⟨text, hname, htext⟩, hnumbers⟩, rfl, hlen⟩

/-! ## Values that give the numbers of a result -/

/-- Only the numbers tell two lists of number fields apart. -/
theorem numbers_eq_of_values {r r' : Result}
    (h : r'.numbers.map Prod.snd = r.numbers.map Prod.snd) : r'.numbers = r.numbers := by
  have hnames : r'.numbers.map Prod.fst = r.numbers.map Prod.fst := rfl
  rw [List.zip_of_prod hnames h]
  exact (List.zip_of_prod rfl rfl).symm

theorem numbers_eq_of_lookup {find : String → Option Json} {r r' : Result}
    (h : ∀ m ∈ r.numbers, find m.1 = some m.2) (h' : ∀ m ∈ r'.numbers, find m.1 = some m.2) :
    r'.numbers = r.numbers := by
  have hvalues (q : Result) (hq : ∀ m ∈ q.numbers, find m.1 = some m.2) :
      (q.numbers.map Prod.snd).map some = (q.numbers.map Prod.fst).map find := by
    rw [List.map_map, List.map_map]
    exact List.map_congr_left fun m hm => (hq m hm).symm
  have hnames : r'.numbers.map Prod.fst = r.numbers.map Prod.fst := rfl
  refine numbers_eq_of_values ((List.map_inj_right fun _ _ => Option.some.inj).mp ?_)
  rw [hvalues r h, hvalues r' h', hnames]

/-- The fields with `minimized` for the bytes, or without the bytes. -/
def givenFields (r : Result) (minimized : Option Json) : List (String × Json) :=
  minimized.toList.map (Prod.mk "minimized") ++ r.numbers

/-- The value gives the numbers of `r`, under their names or at their places, and `minimized` for
    the bytes. The members of an object may stand in any order, and there may be others, but no
    field is given twice. -/
inductive Carries (r : Result) : (minimized : Option Json) → Json → Prop
  | object {minimized : Option Json} {members others : List (String × Json)}
      (hperm : members.Perm (r.givenFields minimized ++ others))
      (hothers : ∀ m ∈ others, m.1 ∉ fieldNames) : Carries r minimized (.obj members)
  | array (minimized : Json) :
      Carries r (some minimized) (.arr ((r.fieldsWith minimized).map Prod.snd))

theorem member?_of_perm {members known others : List (String × Json)}
    (hperm : members.Perm (known ++ others)) (hothers : ∀ m ∈ others, m.1 ∉ known.map Prod.fst)
    (hknown : (known.map Prod.fst).Nodup) {m : String × Json} (hm : m ∈ known) :
    Json.member? members m.1 = some m.2 := by
  refine Json.member?_of_unique (hperm.mem_iff.mpr (List.mem_append_left _ hm)) fun n hn hname => ?_
  rcases List.mem_append.mp (hperm.mem_iff.mp hn) with hn | hn
  · exact List.inj_on_of_nodup_map hknown hn hm hname
  · exact absurd (hname ▸ List.mem_map_of_mem hm) (hothers n hn)

theorem givenFields_sublist (r : Result) (minimized : Option Json) :
    ((r.givenFields minimized).map Prod.fst).Sublist fieldNames := by
  cases minimized with
  | none => exact List.sublist_cons_self _ _
  | some v => exact List.Sublist.refl _

theorem member?_of_givenFields {r : Result} {minimized : Option Json}
    {members others : List (String × Json)}
    (hperm : members.Perm (r.givenFields minimized ++ others))
    (hothers : ∀ m ∈ others, m.1 ∉ fieldNames) :
    Json.member? members "minimized" = minimized ∧
      ∀ m ∈ r.numbers, Json.member? members m.1 = some m.2 := by
  have hnames := givenFields_sublist r minimized
  have hfield {m : String × Json} (hm : m ∈ r.givenFields minimized) :
      Json.member? members m.1 = some m.2 :=
    member?_of_perm hperm (fun n hn hmem => hothers n hn (hnames.subset hmem))
      (hnames.nodup (by decide)) hm
  refine ⟨?_, fun m hm => hfield (List.mem_append_right _ hm)⟩
  cases minimized with
  | some v => exact hfield (m := ("minimized", v)) List.mem_cons_self
  | none =>
    refine Json.member?_eq_none fun m hm hname => ?_
    rcases List.mem_append.mp (hperm.mem_iff.mp hm) with hnumber | hother
    · have hmem : m.1 ∈ fieldNames.tail := List.mem_map_of_mem hnumber
      rw [hname] at hmem
      exact absurd hmem (by decide)
    · exact hothers m hother (hname ▸ List.mem_cons_self)

/-- From such a value a result is read exactly if it has these numbers and the bytes of a text that
    stands at the place of the bytes. -/
theorem Carries.ofJson_eq_ok_iff {r r' : Result} {minimized : Option Json} {j : Json}
    (h : r.Carries minimized j) :
    ofJson j = .ok r' ↔ ∃ text, minimized = some (.str text) ∧
      Hex.decode text = .ok r'.minimized ∧ r'.numbers = r.numbers := by
  cases h with
  | object hperm hothers =>
    obtain ⟨hname, hlookup⟩ := member?_of_givenFields hperm hothers
    rw [ofJson_obj_eq_ok_iff, hname]
    constructor
    · rintro ⟨⟨text, htext, hdecode⟩, hnumbers⟩
      exact ⟨text, htext, hdecode, numbers_eq_of_lookup hlookup hnumbers⟩
    · rintro ⟨text, htext, hdecode, hnumbers⟩
      exact ⟨⟨text, htext, hdecode⟩, hnumbers ▸ hlookup⟩
  | array minimized =>
    rw [ofJson_arr_eq_ok_iff]
    constructor
    · rintro ⟨text, hitems, htext⟩
      obtain ⟨hname, hnumbers⟩ := List.cons.inj hitems
      exact ⟨text, congrArg some hname, htext, numbers_eq_of_values hnumbers.symm⟩
    · rintro ⟨text, hname, htext, hnumbers⟩
      obtain rfl := Option.some.inj hname
      exact ⟨text, by rw [fieldsWith, fieldsWith, hnumbers], htext⟩

/-! ## Written forms -/

/-- The value is a form of the fields of `r`, with `text` for the bytes: the array of the fields in
    order, or an object of the fields and of `extra`, in any order. -/
inductive Written (r : Result) (text : String) : (extra : List (String × Json)) → Json → Prop
  | object {members extra : List (String × Json)}
      (hperm : members.Perm (r.fieldsWith (.str text) ++ extra)) :
      Written r text extra (.obj members)
  | array : Written r text [] (.arr ((r.fieldsWith (.str text)).map Prod.snd))

theorem written_toJson (r : Result) : r.Written (Hex.encode r.minimized) [] r.toJson :=
  .object (List.Perm.of_eq (List.append_nil _).symm)

theorem Written.carries {r : Result} {text : String} {extra : List (String × Json)} {j : Json}
    (h : r.Written text extra j) (hextra : ∀ m ∈ extra, m.1 ∉ fieldNames) :
    r.Carries (some (.str text)) j := by
  cases h with
  | object hperm => exact .object hperm hextra
  | array => exact .array _

/-- Every number of the result takes at most 64 bits. -/
def Fits (r : Result) : Prop := ∀ c ∈ r.counts, c.2 < 2 ^ 64

theorem Written.readable {r : Result} {text : String} {extra : List (String × Json)} {j : Json}
    (h : r.Written text extra j) (hfits : r.Fits)
    (hextra : ∀ m ∈ extra, Json.Readable (Json.maxDepth - 1) m.2) :
    Json.Readable Json.maxDepth j := by
  have hfields : ∀ m ∈ r.fieldsWith (.str text), Json.Readable (Json.maxDepth - 1) m.2 := by
    intro m hm
    rcases List.mem_cons.mp hm with rfl | hm
    · exact .str text
    · obtain ⟨c, hc, rfl⟩ := List.mem_map.mp hm
      have hlt := hfits c hc
      refine .int ⟨?_, ?_⟩
      · omega
      · omega
  cases h with
  | object hperm =>
    refine (Json.Readable.obj fun m hm => ?_ : Json.Readable (Json.maxDepth - 1 + 1) _)
    exact (List.mem_append.mp (hperm.mem_iff.mp hm)).elim (hfields m) (hextra m)
  | array =>
    refine (Json.Readable.arr fun v hv => ?_ : Json.Readable (Json.maxDepth - 1 + 1) _)
    obtain ⟨m, hm, rfl⟩ := List.mem_map.mp hv
    exact hfields m hm

/-- **The format of results keeps them.** A result is read back from the value it is written as, and
    from every other form of its fields with digits of either case; where the numbers take at most
    64 bits, such a value is read back from its texts in turn. In the other direction, a value that
    gives the numbers of a result is accepted exactly if a text of digits, of an even number of
    bytes, stands for the bytes. What was read is then written with the same numbers and with that
    text in lower case. -/
theorem format_round_trip (r : Result) :
    (ofJson r.toJson = .ok r ∧ (r.Fits → r.toJson.Legible)) ∧
    (∀ text extra j, (∀ c ∈ text.toList, Hex.IsDigit c) → text.toLower = Hex.encode r.minimized →
      (∀ m ∈ extra, m.1 ∉ fieldNames) → r.Written text extra j →
      ofJson j = .ok r ∧
      (r.Fits → (∀ m ∈ extra, Json.Readable (Json.maxDepth - 1) m.2) → j.Legible)) ∧
    ∀ minimized j, r.Carries minimized j →
      ((∃ r', ofJson j = .ok r') ↔ ∃ text, minimized = some (.str text) ∧
        text.utf8ByteSize % 2 = 0 ∧ ∀ c ∈ text.toList, Hex.IsDigit c) ∧
      ∀ text r', minimized = some (.str text) → ofJson j = .ok r' →
        r'.toJson = .obj (r.fieldsWith (.str text.toLower)) := by
  refine ⟨⟨?_, fun hfits => ?_⟩, ?_, fun minimized j hj => ⟨?_, ?_⟩⟩
  · exact ((written_toJson r).carries (List.forall_mem_nil _)).ofJson_eq_ok_iff.mpr
      ⟨_, rfl, Hex.decode_encode r.minimized, rfl⟩
  · exact ((written_toJson r).readable hfits (List.forall_mem_nil _)).legible
  · intro text extra j hdigits hlower hextra hj
    have hdecode : Hex.decode text = .ok r.minimized :=
      Hex.decode_eq_ok_iff.mpr ⟨hdigits, hlower.symm⟩
    refine ⟨(hj.carries hextra).ofJson_eq_ok_iff.mpr ⟨text, rfl, hdecode, rfl⟩, ?_⟩
    exact fun hfits hreadable => (hj.readable hfits hreadable).legible
  · simp only [hj.ofJson_eq_ok_iff]
    constructor
    · rintro ⟨r', text, hname, hdecode, _⟩
      exact ⟨text, hname, Hex.exists_decode_iff.mp ⟨_, hdecode⟩⟩
    · rintro ⟨text, hname, htext⟩
      obtain ⟨bytes, hdecode⟩ := Hex.exists_decode_iff.mpr htext
      exact ⟨{ r with minimized := bytes }, text, hname, hdecode, rfl⟩
  · intro text r' hname hread
    obtain ⟨text', hname', hdecode, hnumbers⟩ := hj.ofJson_eq_ok_iff.mp hread
    obtain rfl : text' = text := Json.str.inj (Option.some.inj (hname'.symm.trans hname))
    change Json.obj (("minimized", .str (Hex.encode r'.minimized)) :: r'.numbers) = _
    rw [(Hex.decode_eq_ok_iff.mp hdecode).2, hnumbers, fieldsWith]

/-- The largest number, digits of both cases, the fields in reverse behind an unknown one; and an
    odd number of digits. -/
theorem format_round_trip_mixed_case :
    let r : Result := ⟨[0xab, 0x0c], 18446744073709551615, 2, 9, 1, 2, 3, 4, 5⟩
    let j : Json := .obj (r.fieldsWith (.str "aB0C") ++ [("note", Json.null)]).reverse
    (ofJson j = .ok r ∧ j.Legible) ∧
      ¬ ∃ r', ofJson (.arr ((r.fieldsWith (.str "aB0")).map Prod.snd)) = .ok r' := by
  intro r j
  obtain ⟨_, hforms, hvalues⟩ := format_round_trip r
  have hdigits : ∀ c ∈ ['a', 'B', '0', 'C'], Hex.IsDigit c := by
    simp only [List.forall_mem_cons]
    exact ⟨by decide, by decide, by decide, by decide, List.forall_mem_nil _⟩
  have hread := hforms "aB0C" [("note", .null)] j hdigits (by decide +kernel)
    (by simp [fieldNames]) (.object (List.reverse_perm _))
  refine ⟨⟨hread.1, hread.2 ?_ ?_⟩, ?_⟩
  · exact show ∀ c ∈ r.counts, c.2 < 2 ^ 64 by decide
  · exact List.forall_mem_singleton.mpr .null
  · rw [(hvalues _ _ (.array _)).1]
    rintro ⟨text, htext, heven, _⟩
    obtain rfl : "aB0" = text := Json.str.inj (Option.some.inj htext)
    exact absurd heven (by decide)

end Result

end DeltaDebug
