import DeltaDebug.CommandLine.Delivery

/-
  What a delivery does to the files. The temporary file has a name that is free
  (`FileTree.Free`, `free_temporaryPlace`), so making it, writing to it and removing it leaves the
  files as they were (`FileTree.erase_insert`). The place where the delivery ends is the one that
  the written path stands for, with or without the temporary file (`renameTarget_resolve`).

  `deliver_cases` is all that a delivery can come to: it fails, and the files are the same, or it
  succeeds, and one file has the content. A file never takes the place of a directory, so whatever
  a written path stood for before, it stands for afterwards (`directory_insert`, `resolve_mono`).
-/

namespace DeltaDebug

/-- A name that a file can have. -/
def Path.Ordinary (name : Name) : Prop := name ≠ [] ∧ name ≠ dot ∧ name ≠ dotDot

/-! ## Files and names -/

namespace FileTree

/-- Nothing is at the path. -/
def Free (t : FileTree) (p : Path) : Prop := ∀ entry ∈ t.entries, entry.1 ≠ p

theorem erase_of_free {t : FileTree} {p : Path} (h : t.Free p) : t.erase p = t := by
  unfold erase
  rw [List.filter_eq_self.mpr fun entry hentry => decide_eq_true (h entry hentry)]

theorem lookup_of_free {t : FileTree} {p : Path} (hp : p ≠ []) (h : t.Free p) :
    t.lookup p = none := by
  unfold lookup
  rw [if_neg hp, List.lookup_eq_none_iff]
  intro entry hentry
  exact bne_iff_ne.mpr (Ne.symm (h entry hentry))

theorem erase_insert (t : FileTree) (p : Path) (e : FileEntry) :
    (t.insert p e).erase p = t.erase p := by
  unfold erase insert
  simp

theorem insert_insert (t : FileTree) (p : Path) (e e' : FileEntry) :
    (t.insert p e).insert p e' = t.insert p e' := by
  unfold insert
  simp

theorem lookup_insert_self (t : FileTree) {p : Path} (hp : p ≠ []) (e : FileEntry) :
    (t.insert p e).lookup p = some e := by
  unfold lookup insert
  rw [if_neg hp, List.lookup_cons_self]

theorem lookup_filter_ne (entries : List (Path × FileEntry)) {p q : Path} (h : q ≠ p) :
    (entries.filter (·.1 ≠ p)).lookup q = entries.lookup q := by
  induction entries with
  | nil => rfl
  | cons entry entries ih =>
    obtain ⟨r, e⟩ := entry
    by_cases hr : r = p
    · subst hr
      have hne : (q == r) = false := beq_false_of_ne h
      rw [List.filter_cons_of_neg (by simp), ih, List.lookup_cons, hne]
    · rw [List.filter_cons_of_pos (by simpa using hr), List.lookup_cons, List.lookup_cons, ih]

theorem lookup_insert_of_ne (t : FileTree) {p q : Path} (h : q ≠ p) (e : FileEntry) :
    (t.insert p e).lookup q = t.lookup q := by
  have hne : (q == p) = false := beq_false_of_ne h
  unfold lookup insert
  rw [List.lookup_cons, hne, lookup_filter_ne t.entries h]

theorem length_le_longestName {t : FileTree} {entry : Path × FileEntry} (h : entry ∈ t.entries) :
    (entry.1.getLast?.getD []).length ≤ t.longestName := by
  obtain ⟨entries⟩ := t
  unfold longestName
  dsimp only at h ⊢
  induction entries with
  | nil => cases h
  | cons first entries ih =>
    rw [List.foldr_cons]
    rcases List.mem_cons.mp h with rfl | h
    · exact Nat.le_max_left _ _
    · exact Nat.le_trans (ih h) (Nat.le_max_right _ _)

/-! ## Walks -/

theorem walk_append (t : FileTree) (here : Path) (names names' : List Name) :
    t.walk here (names ++ names') = (t.walk here names >>= fun p => t.walk p names') := by
  induction names generalizing here with
  | nil => rfl
  | cons n names ih =>
    rw [List.cons_append, walk, walk]
    split
    · split
      · exact ih here
      · split
        · exact ih here.dropLast
        · exact ih (here ++ [n])
    · rfl
    · rfl

/-- A walk is possible wherever there are the same directories, or more. -/
theorem walk_mono {t t' : FileTree}
    (h : ∀ p, t.lookup p = some .directory → t'.lookup p = some .directory) {here p : Path}
    {names : List Name} (hwalk : t.walk here names = .ok p) : t'.walk here names = .ok p := by
  induction names generalizing here with
  | nil => exact hwalk
  | cons n names ih =>
    rw [walk] at hwalk ⊢
    split at hwalk
    case h_1 hdir =>
      rw [h here hdir]
      dsimp only
      split at hwalk
      case isTrue hdot =>
        rw [if_pos hdot]
        exact ih hwalk
      case isFalse hdot =>
        rw [if_neg hdot]
        split at hwalk
        case isTrue hup =>
          rw [if_pos hup]
          exact ih hwalk
        case isFalse hup =>
          rw [if_neg hup]
          exact ih hwalk
    case h_2 => cases hwalk
    case h_3 => cases hwalk

/-- So is what a written path stands for. -/
theorem resolve_mono {t t' : FileTree}
    (h : ∀ p, t.lookup p = some .directory → t'.lookup p = some .directory) {cwd p : Path}
    {text : List UInt8} (hresolve : t.resolve cwd text = .ok p) :
    t'.resolve cwd text = .ok p := by
  unfold resolve at hresolve ⊢
  split at hresolve
  case isTrue => cases hresolve
  case isFalse hne =>
    split at hresolve
    case isTrue => cases hresolve
    case isFalse hnul =>
      rw [if_neg hne, if_neg hnul]
      dsimp only at hresolve ⊢
      split at hresolve
      case h_1 => cases hresolve
      case h_2 q hwalk =>
        rw [walk_mono h hwalk]
        dsimp only
        split at hresolve
        case isFalse hend =>
          rw [if_neg hend]
          exact hresolve
        case isTrue hend =>
          rw [if_pos hend]
          split at hresolve
          case h_1 hdir =>
            rw [h q hdir]
            exact hresolve
          case h_2 => cases hresolve
          case h_3 => cases hresolve

/-- Where one can stay one can go on to a file. -/
theorem walk_into {t : FileTree} {here dir : Path} {names : List Name} {name : Name}
    (h : t.walk here (names ++ [Path.dot]) = .ok dir) (hname : Path.Ordinary name) :
    t.walk here (names ++ [name]) = .ok (dir ++ [name]) := by
  obtain ⟨hne, hdot, hup⟩ := hname
  rw [walk_append] at h ⊢
  rcases hw : t.walk here names with e | d
  · rw [hw] at h
    cases h
  · rw [hw] at h
    change t.walk d [Path.dot] = .ok dir at h
    change t.walk d [name] = .ok (dir ++ [name])
    rw [walk] at h ⊢
    split at h
    case h_1 hdir =>
      rw [if_pos (Or.inl rfl)] at h
      cases h
      rw [if_neg (by simp [hne, hdot]), if_neg hup]
      rfl
    case h_2 => cases h
    case h_3 => cases h

end FileTree

namespace Path

theorem splitSlashes_ne_nil (text : List UInt8) : splitSlashes text ≠ [] := by
  cases text with
  | nil => nofun
  | cons b rest =>
    rw [splitSlashes]
    split
    · nofun
    · split <;> nofun

/-- The last part of a written path is empty only behind a slash, or if there is nothing. -/
theorem getLast_splitSlashes {text : List UInt8} (h : (splitSlashes text).getLast? = some []) :
    text = [] ∨ text.getLast? = some slash := by
  induction text with
  | nil => exact Or.inl rfl
  | cons b rest ih =>
    right
    rw [List.getLast?_cons]
    rw [splitSlashes] at h
    split at h
    case isTrue hb =>
      rw [List.getLast?_cons_of_ne_nil (splitSlashes_ne_nil rest)] at h
      rcases ih h with rfl | hlast
      · exact congrArg some hb
      · rw [hlast]
        rfl
    case isFalse =>
      rcases hs : splitSlashes rest with _ | ⟨w, _ | ⟨w', ws⟩⟩
      · exact absurd hs (splitSlashes_ne_nil rest)
      · -- the last part has the byte `b`
        rw [hs] at h
        cases h
      · rw [hs] at h ih
        rcases ih h with rfl | hlast
        · cases hs
        · rw [hlast]
          rfl

/-- A written path that does not end in a slash ends in a name. -/
theorem splitSlashes_eq_append {text : List UInt8} {name : Name} {above : List Name}
    (h : (splitSlashes text).reverse.dropWhile (· = []) = name :: above)
    (hslash : text.getLast? ≠ some slash) :
    splitSlashes text = above.reverse ++ [name] ∧ name ≠ [] := by
  rcases hrev : (splitSlashes text).reverse with _ | ⟨last, rest⟩
  · rw [hrev] at h
    cases h
  · have hlast : (splitSlashes text).getLast? = some last := by
      rw [← List.head?_reverse, hrev]
      rfl
    have hne : last ≠ [] := by
      rintro rfl
      rcases getLast_splitSlashes hlast with rfl | hs
      · cases h
      · exact hslash hs
    rw [hrev, List.dropWhile_cons_of_neg (by simpa using hne)] at h
    cases h
    refine ⟨?_, hne⟩
    rw [← List.reverse_reverse (splitSlashes text), hrev, List.reverse_cons]

theorem not_endsInDirectory {text : List UInt8} {name : Name} {above : List Name}
    (h : splitSlashes text = above ++ [name]) (hname : Ordinary name) :
    endsInDirectory text = false := by
  obtain ⟨hne, hdot, hup⟩ := hname
  unfold endsInDirectory
  rw [h, List.getLast?_concat]
  simp [hne, hdot, hup]

end Path

namespace CommandLine

open FileTree

/-! ## The temporary file -/

theorem free_temporaryPlace {files : FileTree} {cwd : Path} {dir : String} {temp : Path}
    (h : temporaryPlace files cwd dir = .ok temp) : temp ≠ [] ∧ files.Free temp := by
  unfold temporaryPlace at h
  split at h
  case h_1 => cases h
  case h_3 => cases h
  case h_2 p _ =>
    cases h
    refine ⟨by simp, ?_⟩
    -- an entry at this place would have a name that is too long
    rintro entry hentry hp
    have hle := length_le_longestName hentry
    rw [hp, List.getLast?_concat, Option.getD_some] at hle
    unfold freeName at hle
    rw [List.length_append, List.length_replicate] at hle
    have hpos : 0 < (Text.encode ".tmp").length := by decide +kernel
    omega

/-- A temporary file is no directory that was not there before. -/
theorem directory_of_insert_file {files : FileTree} {temp p : Path} {content : Candidate}
    {executable : Bool} (htemp : temp ≠ [])
    (h : (files.insert temp (.file content executable)).lookup p = some .directory) :
    files.lookup p = some .directory := by
  by_cases hp : p = temp
  · rw [hp, lookup_insert_self files htemp] at h
    cases h
  · rwa [lookup_insert_of_ne files hp] at h

/-- What is put over something that is no directory leaves all directories. -/
theorem directory_insert {files : FileTree} {place p : Path} (e : FileEntry)
    (hplace : files.lookup place ≠ some .directory) (h : files.lookup p = some .directory) :
    (files.insert place e).lookup p = some .directory := by
  have hne : p ≠ place := by
    rintro rfl
    exact hplace h
  rw [lookup_insert_of_ne files hne]
  exact h

/-! ## The place of a delivery -/

/-- A place that a file can be moved to: the written path ends in a name, and leads to the
    directory before it; there is no directory at the place itself. -/
theorem renameTarget_ok {files : FileTree} {cwd p : Path} {path : String}
    (h : renameTarget files cwd path = .ok p) :
    ¬ (Text.encode path).contains 0 ∧ ∃ above name dir,
      Path.splitSlashes (Text.encode path) = above ++ [name] ∧ Path.Ordinary name ∧
      files.walk (if Path.isAbsolute (Text.encode path) then [] else cwd) (above ++ [Path.dot]) =
        .ok dir ∧
      p = dir ++ [name] ∧ files.lookup p ≠ some .directory := by
  unfold renameTarget at h
  dsimp only at h
  split at h
  case isTrue => cases h
  case isFalse hnul =>
    split at h
    case h_1 => cases h
    case h_2 name above hparts =>
      split at h
      case h_1 => cases h
      case h_2 dir hwalk =>
        split at h
        case isTrue => cases h
        case isFalse hdots =>
          split at h
          case isTrue => cases h
          case isFalse hslash =>
            obtain ⟨hsplit, hne⟩ := Path.splitSlashes_eq_append hparts hslash
            refine ⟨hnul, above.reverse, name, dir, hsplit, ⟨hne, not_or.mp hdots⟩, hwalk, ?_⟩
            split at h
            case h_1 => cases h
            case h_2 hdir =>
              obtain rfl := Except.ok.inj h
              exact ⟨rfl, hdir⟩

/-- A place that a file can be moved to is where the written path leads, also in a tree that has
    the same directories only. -/
theorem renameTarget_resolve {files before : FileTree} {cwd p : Path} {path : String}
    (hdirs : ∀ q, files.lookup q = some .directory → before.lookup q = some .directory)
    (h : renameTarget files cwd path = .ok p) :
    p ≠ [] ∧ before.resolve cwd (Text.encode path) = .ok p := by
  obtain ⟨hnul, above, name, dir, hsplit, hname, hwalk, rfl, _⟩ := renameTarget_ok h
  have hinto := walk_into (walk_mono hdirs hwalk) hname
  have htext : Text.encode path ≠ [] := by
    intro hnil
    have hlast := congrArg List.getLast? hsplit
    rw [hnil, List.getLast?_concat] at hlast
    exact hname.1 (Option.some.inj hlast).symm
  refine ⟨by simp, ?_⟩
  unfold resolve
  rw [if_neg htext, if_neg hnul]
  dsimp only
  rw [hsplit, hinto, Path.not_endsInDirectory hsplit hname]
  rfl

/-! ## Deliveries -/

/-- A delivery fails and leaves the files as they were, or it succeeds and the only change is that
    the file that the path stands for, which is no directory, has the content. -/
theorem deliver_cases (mishap : Option Mishap) (files : FileTree) (cwd : Path) (path : String)
    (content : Candidate) :
    (∃ e, deliver mishap files cwd path content = (.error e, files)) ∨
      ∃ p, p ≠ [] ∧ files.lookup p ≠ some .directory ∧
        files.resolve cwd (Text.encode path) = .ok p ∧
        deliver mishap files cwd path content =
          (.ok (), files.insert p (.file content false)) := by
  unfold deliver
  dsimp only
  split
  case h_1 => exact Or.inl ⟨_, rfl⟩
  case h_2 => exact Or.inl ⟨_, rfl⟩
  case h_3 temp _ hplace =>
    obtain ⟨htemp, hfree⟩ := free_temporaryPlace hplace
    have hremoved : ∀ e, (files.insert temp e).erase temp = files := fun e => by
      rw [erase_insert, erase_of_free hfree]
    simp only [insert_insert, hremoved]
    split
    case h_1 => exact Or.inl ⟨_, rfl⟩
    case h_2 =>
      split
      case h_1 => exact Or.inl ⟨_, rfl⟩
      case h_2 => exact Or.inl ⟨_, rfl⟩
      case h_3 hrename _ _ =>
        obtain ⟨hp, hresolve⟩ := renameTarget_resolve
          (fun q hq => directory_of_insert_file htemp hq) hrename
        obtain ⟨_, _, _, _, _, _, _, _, hplace⟩ := renameTarget_ok hrename
        have hnothing : files.lookup temp ≠ some .directory := by
          rw [lookup_of_free htemp hfree]
          nofun
        have hdir := fun hd => hplace (directory_insert (.file content false) hnothing hd)
        exact Or.inr ⟨_, hp, hdir, hresolve, rfl⟩

end CommandLine

end DeltaDebug
