import DeltaDebug.CommandLine.Run
import DeltaDebug.Proofs.Delivery
import DeltaDebug.Proofs.Failure

/-
  What a run of the tool does to the files. A search touches the state of its oracle by calls only,
  and building a pool for it makes none, so whatever the calls keep, it keeps, with or without an
  error (`Oracle.Keeps`, `Scan.Keeps`, `keeps_pooled`, `Launcher.keeps_drive`). If targets write no
  files, the files are therefore the same until the first delivery, and there is one only if the
  search succeeded (`run_cases`).

  Of the deliveries, the minimized input comes first and the report second. So a run that fails
  changed nothing, or it failed with the report, and then the minimized input is in its place
  (`deliverAll_error`, `failed_run_keeps_files`).
-/

namespace DeltaDebug

variable {σ α : Type} {confirm : Bool} {I : σ → Prop}

/-! ## What calls keep -/

/-- What holds of the oracle's state still holds after a call. -/
def Oracle.Keeps (o : Oracle σ) (I : σ → Prop) : Prop :=
  ∀ patience c st, I st → I (o.call patience c st).2

/-- What holds of the oracle's state still holds after a scan. -/
def Scan.Keeps (scan : Scan σ) (I : σ → Prop) : Prop :=
  ∀ count build s, I s.oracle → I (scan count build s).2.oracle

section Calls

variable {o : Oracle σ} (ho : o.Keeps I)

include ho

theorem keeps_ask (c : Candidate) {s : Session σ} (hs : I s.oracle) : I (s.ask o c).2.oracle :=
  ho none c s.oracle hs

theorem keeps_probe (confirm : Bool) (c : Candidate) {s : Session σ} (hs : I s.oracle) :
    I (probe o confirm c s).2.oracle := by
  have h1 := keeps_ask ho c hs
  unfold probe
  generalize s.ask o c = x at h1
  rcases x with ⟨_ | _ | v, s1⟩
  · exact h1
  · exact h1
  · cases v with
    | passes => exact h1
    | unresolved => exact h1
    | fails =>
      have h2 := keeps_ask ho c h1
      dsimp only
      split
      · generalize s1.ask o c = y at h2
        rcases y with ⟨_ | _ | v, s2⟩
        · exact h2
        · exact h2
        · cases v <;> exact h2
      · exact h1

theorem keeps_firstFailing (build : α → Candidate) (is : List α) {s : Session σ}
    (hs : I s.oracle) : I (firstFailing o confirm build is s).2.oracle := by
  induction is generalizing s with
  | nil => exact hs
  | cons i is ih =>
    have h1 := keeps_probe ho confirm (build i) hs
    rw [firstFailing]
    generalize probe o confirm (build i) s = x at h1
    rcases x with ⟨e | p, s1⟩
    · exact h1
    · dsimp only
      split
      · exact h1
      · exact ih h1

theorem keeps_scanInOrder : (scanInOrder o confirm).Keeps I :=
  fun _ build _ hs => keeps_firstFailing ho build _ hs

namespace Pool

variable {count : Nat}

theorem keeps_findings (build : Fin count → Candidate) (is : List (Fin count))
    (lowest : Option (Fin count)) {s : Session σ} (hs : I s.oracle) :
    I (findings o confirm build lowest is s).2.oracle := by
  induction is generalizing lowest s with
  | nil => exact hs
  | cons i is ih =>
    rw [findings]
    split
    · exact ih lowest hs
    · exact ih _ (keeps_probe ho confirm (build i) hs)

omit ho in
/-- Counting the findings asks nobody. -/
theorem oracle_collect (found : Option (Fin count)) (rs : List (Finding count)) (s : Session σ) :
    (collect found rs s).2.oracle = s.oracle := by
  induction rs generalizing found s with
  | nil => rfl
  | cons r rs ih =>
    obtain ⟨i, e | p⟩ := r
    · rw [collect]
      split
      · exact ih _ _
      · rfl
    · rw [collect]
      exact ih _ _

theorem keeps_scan : (scan o confirm).Keeps I := by
  intro count build s hs
  unfold scan
  split
  · exact keeps_scanInOrder ho count build s hs
  · dsimp only
    rw [oracle_collect]
    exact keeps_findings ho build _ none hs

theorem keeps_scanBy (schedule : Schedule σ confirm) : (scanBy o schedule).Keeps I := by
  intro count build s hs
  unfold scanBy
  split
  · exact keeps_scanInOrder ho count build s hs
  · dsimp only
    rw [oracle_collect]
    exact hs

end Pool

theorem keeps_optionsScan (opts : Options) : (opts.scan o).Keeps I := by
  unfold Options.scan
  split
  · exact keeps_scanInOrder ho
  · exact Pool.keeps_scan ho

theorem keeps_verify (opts : Options) (input : Candidate) {s : Session σ} (hs : I s.oracle) :
    I (verify opts o input s).2.oracle := by
  have h1 := keeps_probe ho opts.doubleCheck input hs
  unfold verify
  split
  · generalize probe o opts.doubleCheck input s = x at h1
    rcases x with ⟨e | p, s1⟩
    · exact h1
    · dsimp only
      split <;> exact h1
  · exact hs

end Calls

/-! ## What searches keep -/

theorem Scan.Keeps.scanned {scan : Scan σ} (h : scan.Keeps I) {count : Nat}
    {build : Fin count → Candidate} {s s' : Session σ} {r : Except OracleError (Option (Fin count))}
    (hscan : scan count build s = (r, s')) (hs : I s.oracle) : I s'.oracle := by
  have hkept := h count build s hs
  rwa [hscan] at hkept

/-- Between two sessions of a search there are scans, log lines and counts. -/
theorem Scan.Keeps.breaks {scan : Scan σ} (h : scan.Keeps I) :
    scan.Breaks (fun s s' => I s.oracle → I s'.oracle) fun s _ s' => I s.oracle → I s'.oracle where
  refl _ hs := hs
  trans h1 h2 hs := h2 (h1 hs)
  note _ _ hs := hs
  proceed _ _ r hs := by cases r <;> exact hs
  scan hscan := h.scanned hscan
  before h1 h2 hs := h2 (h1 hs)
  error hscan := h.scanned hscan

theorem keeps_search {scan : Scan σ} (h : scan.Keeps I) (input : Candidate) {s : Session σ}
    (hs : I s.oracle) : I (search scan input s).2.oracle := by
  rcases hsearch : search scan input s with ⟨e | m, s1⟩
  · exact h.breaks.search hsearch hs
  · exact h.breaks.toLinks.search hsearch hs

theorem keeps_minimizeWith {o : Oracle σ} (ho : o.Keeps I) {scan : Scan σ} (h : scan.Keeps I)
    (opts : Options) (input : Candidate) {s : Session σ} (hs : I s.oracle) :
    I (minimizeWith scan opts o input s).2.oracle := by
  have h1 := keeps_verify ho opts input hs
  unfold minimizeWith
  generalize verify opts o input s = x at h1
  rcases x with ⟨e | _, s1⟩
  · exact h1
  · have h2 := keeps_search h input h1
    dsimp only
    generalize search scan input s1 = y at h2
    rcases y with ⟨e | m, s2⟩ <;> exact h2

/-- Building a pool asks nobody. -/
theorem keeps_pooled (opts : Options) (build : PoolBuilder) {ε : Type}
    {rest : Session σ → Except ε α × Session σ} {s : Session σ} (hs : I s.oracle)
    (h : I (rest s).2.oracle) : I (opts.pooled build rest s).2.oracle := by
  unfold Options.pooled
  split
  · exact hs
  · exact h

theorem keeps_driveBy {o : Oracle σ} (ho : o.Keeps I) {ε δ : Type} {unmet : DriveError → δ}
    {failed : ε → δ} {minimizer : Oracle σ → Candidate → Session σ → Except ε Result × Session σ}
    (h : ∀ input s, I s.oracle → I (minimizer o input s).2.oracle) (input : Candidate)
    {s : Session σ} (hs : I s.oracle) :
    I (driveBy minimizer unmet failed o input s).2.oracle := by
  have h1 : I (checkPrecondition o input s).2.oracle := by
    have hask := keeps_ask ho input hs
    unfold checkPrecondition
    generalize s.ask o input = x at hask
    obtain ⟨a, s1⟩ := x
    dsimp only
    split <;> exact hask
  unfold driveBy
  generalize checkPrecondition o input s = x at h1
  rcases x with ⟨e | _, s1⟩
  · exact h1
  · have h2 := h input s1 h1
    dsimp only
    generalize minimizer o input s1 = y at h2
    rcases y with ⟨e | r, s2⟩ <;> exact h2

namespace CommandLine

theorem Launcher.keeps_drive {launch : Launcher} {I : launch.World → Prop}
    {o : Oracle launch.World} (ho : o.Keeps I) (opts : Options) (input : Candidate)
    {s : Session launch.World} (hs : I s.oracle) : I (launch.drive opts o input s).2.oracle := by
  have hscan : (launch.scan opts o).Keeps I := by
    unfold Launcher.scan
    split
    · exact keeps_optionsScan ho opts
    · split
      · exact keeps_scanInOrder ho
      · exact Pool.keeps_scanBy ho _
  refine keeps_driveBy ho (fun input s hs => ?_) input hs
  refine keeps_pooled opts launch.buildPool hs ?_
  exact keeps_minimizeWith ho hscan opts input (s := { s with tally := {} }) hs

/-! ## Deliveries of a run -/

/-- The only change in the files is that the one which the path stands for has the content. -/
def Rewritten (before after : FileTree) (cwd : Path) (path : String) (content : Candidate) : Prop :=
  ∃ p, before.resolve cwd (Text.encode path) = .ok p ∧
    after.lookup p = some (.file content false) ∧ ∀ q, q ≠ p → after.lookup q = before.lookup q

theorem rewritten_insert {files : FileTree} {cwd p : Path} {path : String} (hp : p ≠ [])
    (h : files.resolve cwd (Text.encode path) = .ok p) (content : Candidate) :
    Rewritten files (files.insert p (.file content false)) cwd path content :=
  ⟨p, h, files.lookup_insert_self hp _, fun _ hq => files.lookup_insert_of_ne hq _⟩

/-- A delivery that fails is that of the minimized input, and nothing has changed, or that of the
    report, and the minimized input has been delivered. -/
theorem deliverAll_error {s : Setting} {files files' : FileTree} {r : Report} {f : Failure}
    (h : deliverAll s files r = .error (f, files')) :
    f.exitCode = 2 ∧
      (files' = files ∨ Rewritten files files' s.cwd r.output r.result.minimized) := by
  unfold deliverAll at h
  dsimp only at h
  rcases deliver_cases (s.mishaps[0]?).join files s.cwd r.output r.result.minimized with
    ⟨e, he⟩ | ⟨p, hp, _, hresolve, hok⟩
  · rw [he] at h
    cases h
    exact ⟨rfl, Or.inl rfl⟩
  · rw [hok] at h
    dsimp only at h
    split at h
    case h_1 => cases h
    case h_2 path _ =>
      rcases deliver_cases (s.mishaps[1]?).join (files.insert p (.file r.result.minimized false))
        s.cwd path (Text.encode (r.text r.args.format)) with
        ⟨e, he⟩ | ⟨_, _, _, _, hok'⟩
      · rw [he] at h
        cases h
        exact ⟨rfl, Or.inr (rewritten_insert hp hresolve _)⟩
      · rw [hok'] at h
        cases h

/-! ## Runs -/

/-- The search of a run came to this, and left this session. -/
def Searched (launch : Launcher) (s : Setting) (a : Arguments)
    (x : Except (PoolOr DriveError) Result × Session launch.World) : Prop :=
  ∃ settings input, prepare s a = .ok (settings, input) ∧
    launch.drive { jobs := settings.jobs, doubleCheck := settings.doubleCheck }
      (launch.oracle ⟨s.cwd, s.env⟩ (Settings.target settings a.target)) input
      (.start (launch.enter s.files)) = x

/-- The exit code and the files that a run can end with. -/
inductive Ran (launch : Launcher) (s : Setting) (a : Arguments) : Nat → FileTree → Prop
  | unprepared {f : Failure} (h : prepare s a = .error f) : Ran launch s a f.exitCode s.files
  | unsearched {e : PoolOr DriveError} {session : Session launch.World} (f : Failure)
      (h : Searched launch s a (.error e, session)) :
      Ran launch s a f.exitCode (launch.files session.oracle)
  | undelivered {session : Session launch.World} {report : Report} {f : Failure} {files : FileTree}
      (h : Searched launch s a (.ok report.result, session)) (hargs : report.args = a)
      (houtput : report.output = a.output.getD (defaultOutput a.input))
      (hdeliver : deliverAll s (launch.files session.oracle) report = .error (f, files)) :
      Ran launch s a f.exitCode files
  | delivered {session : Session launch.World} {report : Report} {stdout : String}
      {files : FileTree} (h : Searched launch s a (.ok report.result, session))
      (hargs : report.args = a) (houtput : report.output = a.output.getD (defaultOutput a.input))
      (hdeliver : deliverAll s (launch.files session.oracle) report = .ok (stdout, files)) :
      Ran launch s a 0 files

theorem run_cases (launch : Launcher) (s : Setting) (a : Arguments) :
    Ran launch s a (run launch s a).exitCode (run launch s a).files := by
  unfold run
  dsimp only
  split
  case h_1 f h => exact .unprepared h
  case h_2 settings input h =>
    rcases hdrive : launch.drive { jobs := settings.jobs, doubleCheck := settings.doubleCheck }
      (launch.oracle ⟨s.cwd, s.env⟩ (Settings.target settings a.target)) input
      (.start (launch.enter s.files)) with ⟨e | result, session⟩
    · exact .unsearched _ ⟨settings, input, h, hdrive⟩
    · dsimp only
      split
      case h_1 f files hdeliver =>
        exact .undelivered ⟨settings, input, h, hdrive⟩ rfl rfl hdeliver
      case h_2 stdout files hdeliver =>
        exact .delivered ⟨settings, input, h, hdrive⟩ rfl rfl hdeliver

/-- The target that the arguments name writes no files: while the files are those that the run
    started with, calls leave them so. -/
def TargetSpares (launch : Launcher) (s : Setting) (a : Arguments) : Prop :=
  ∀ settings input, prepare s a = .ok (settings, input) →
    (launch.oracle ⟨s.cwd, s.env⟩ (Settings.target settings a.target)).Keeps
      fun w => launch.files w = s.files

theorem Searched.files_eq {launch : Launcher} {s : Setting} {a : Arguments}
    {x : Except (PoolOr DriveError) Result × Session launch.World} (h : Searched launch s a x)
    (hspares : TargetSpares launch s a) : launch.files x.2.oracle = s.files := by
  obtain ⟨settings, input, hprepare, rfl⟩ := h
  exact Launcher.keeps_drive (I := fun w => launch.files w = s.files)
    (hspares settings input hprepare) _ input (launch.files_enter s.files)

/-- **A run that fails leaves the files alone.** If the target writes no files, then, whatever the
    command line, the settings, the answers and the mishaps are, and whether a pool can be built or
    not: a run that ends with 1 changes no file; a run that ends with 2 changes no file either, or
    else its search succeeded, the output file, which is the input with `.delta` behind its name if
    no other is given, has all bytes of the result, and nothing else has changed. -/
theorem failed_run_keeps_files (launch : Launcher) (s : Setting) (args : List String)
    (hspares : ∀ a, Arguments.parse args = .ok a → TargetSpares launch s a) :
    ((runArguments launch s args).exitCode = 1 → (runArguments launch s args).files = s.files) ∧
    ((runArguments launch s args).exitCode = 2 →
      (runArguments launch s args).files = s.files ∨
      ∃ a result session, Arguments.parse args = .ok a ∧
        Searched launch s a (.ok result, session) ∧
        Rewritten s.files (runArguments launch s args).files s.cwd
          (a.output.getD (a.input ++ ".delta")) result.minimized) := by
  unfold runArguments
  split
  case h_1 => exact ⟨nofun, nofun⟩
  case h_2 => exact ⟨nofun, nofun⟩
  case h_3 => exact ⟨nofun, fun _ => Or.inl rfl⟩
  case h_4 a hparse =>
    have hspared := hspares a hparse
    have hran := run_cases launch s a
    generalize (run launch s a).exitCode = code at hran ⊢
    generalize (run launch s a).files = files at hran ⊢
    cases hran with
    | unprepared h => exact ⟨fun _ => rfl, fun _ => Or.inl rfl⟩
    | unsearched f h => exact ⟨fun _ => h.files_eq hspared, fun _ => Or.inl (h.files_eq hspared)⟩
    | undelivered h _ houtput hdeliver =>
      obtain ⟨hcode, hfiles⟩ := deliverAll_error hdeliver
      have hbefore := h.files_eq hspared
      refine ⟨fun hone => ?_, fun _ => ?_⟩
      · rw [hcode] at hone
        cases hone
      · rcases hfiles with hsame | hrewritten
        · exact Or.inl (hsame.trans hbefore)
        · dsimp only at hbefore
          rw [hbefore, houtput] at hrewritten
          exact Or.inr ⟨a, _, _, hparse, h, hrewritten⟩
    | delivered => exact ⟨nofun, nofun⟩

/-- Targets that answer by a function of the candidate and write no files. -/
def Launcher.answering (f : Candidate → Answer) : Launcher :=
  { launcher with oracle := fun _ _ => ⟨fun _ c w => (⟨f c, []⟩, w)⟩ }

/-- The same, and there are no workers for a pool. -/
def Launcher.alone (f : Candidate → Answer) : Launcher :=
  { Launcher.answering f with buildPool := fun _ => .error "no threads" }

/-- There is one input, and the second file that is delivered cannot take its place. -/
def Setting.fullDisk : Setting where
  cwd := []
  env := []
  files := ⟨[([Text.encode "in"], .file [98] false)]⟩
  logTime := ""
  times := ⟨"", "", 0⟩
  mishaps := [none, some (.rename "No space left on device (os error 28)")]

/-- If the report cannot take its place, the minimized input has taken it, beside the input. If
    there are no workers for the pool that is asked for, or the input does not fail, nothing is
    written. -/
theorem failed_run_keeps_files_fullDisk :
    ((runArguments (.answering (failsOn [98])) .fullDisk ["t", "in", "--report", "r"]).exitCode =
        2 ∧
      ∃ a result session, Arguments.parse ["t", "in", "--report", "r"] = .ok a ∧
        Searched (.answering (failsOn [98])) .fullDisk a (.ok result, session) ∧
        Rewritten Setting.fullDisk.files
          (runArguments (.answering (failsOn [98])) .fullDisk ["t", "in", "--report", "r"]).files []
          "in.delta" result.minimized) ∧
    ((runArguments (.alone (failsOn [98])) .fullDisk ["t", "in", "--jobs", "2"]).exitCode = 2 ∧
      (runArguments (.alone (failsOn [98])) .fullDisk ["t", "in", "--jobs", "2"]).files =
        Setting.fullDisk.files) ∧
    (runArguments (.answering (failsOn [99])) .fullDisk ["t", "in"]).exitCode = 1 ∧
    (runArguments (.answering (failsOn [99])) .fullDisk ["t", "in"]).files =
      Setting.fullDisk.files := by
  have hreport : Arguments.parse ["t", "in", "--report", "r"] =
      .ok { target := "t", input := "in", report := some "r" } := by decide +kernel
  have hjobs : Arguments.parse ["t", "in", "--jobs", "2"] =
      .ok { target := "t", input := "in", jobs := some 2 } := by decide +kernel
  have hplace : Setting.fullDisk.files.resolve [] (Text.encode "in.delta") =
      .ok [Text.encode "in.delta"] := by decide +kernel
  obtain ⟨_, hdisk⟩ := failed_run_keeps_files (.answering (failsOn [98])) .fullDisk
    ["t", "in", "--report", "r"] fun _ _ _ _ _ _ _ _ hw => hw
  obtain ⟨_, halone⟩ := failed_run_keeps_files (.alone (failsOn [98])) .fullDisk
    ["t", "in", "--jobs", "2"] fun _ _ _ _ _ _ _ _ hw => hw
  obtain ⟨hpasses, _⟩ := failed_run_keeps_files (.answering (failsOn [99])) .fullDisk
    ["t", "in"] fun _ _ _ _ _ _ _ _ hw => hw
  have htwo : (runArguments (.answering (failsOn [98])) .fullDisk
      ["t", "in", "--report", "r"]).exitCode = 2 := by decide +kernel
  have htwo' : (runArguments (.alone (failsOn [98])) .fullDisk
      ["t", "in", "--jobs", "2"]).exitCode = 2 := by decide +kernel
  have hone : (runArguments (.answering (failsOn [99])) .fullDisk ["t", "in"]).exitCode = 1 := by
    decide +kernel
  refine ⟨⟨htwo, ?_⟩, ⟨htwo', ?_⟩, hone, hpasses hone⟩
  · have hnew : (runArguments (.answering (failsOn [98])) .fullDisk
        ["t", "in", "--report", "r"]).files.lookup [Text.encode "in.delta"] ≠
          Setting.fullDisk.files.lookup [Text.encode "in.delta"] := by decide +kernel
    rcases hdisk htwo with hsame | ⟨a, result, session, hparse, hsearched, hrewritten⟩
    · exact absurd (congrArg (FileTree.lookup · [Text.encode "in.delta"]) hsame) hnew
    · obtain rfl := Except.ok.inj (hparse.symm.trans hreport)
      exact ⟨_, result, session, hparse, hsearched, hrewritten⟩
  · have hnone : (runArguments (.alone (failsOn [98])) .fullDisk
        ["t", "in", "--jobs", "2"]).files.lookup [Text.encode "in.delta"] = none := by
      decide +kernel
    rcases halone htwo' with hsame | ⟨a, _, _, hparse, _, p, hp, hwritten, _⟩
    · exact hsame
    · obtain rfl := Except.ok.inj (hparse.symm.trans hjobs)
      obtain rfl := Except.ok.inj (hp.symm.trans hplace)
      exact absurd (hwritten.symm.trans hnone) (by simp)

end CommandLine

end DeltaDebug
