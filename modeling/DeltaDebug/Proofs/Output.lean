import DeltaDebug.Proofs.CommandLine

/-
  What a run of the tool leaves when it succeeds. There are two deliveries at most: the minimized
  input and then the report, if that goes to a file. No delivery changes what a written path stands
  for, so a file that was delivered is read back under the path that it was delivered to, and
  stays as it is unless a later delivery goes to the same place (`deliverAll_ok`).

  The two paths are not compared. If they stand for the same place, the report takes the place of
  the minimized input, and the run succeeds all the same (`successful_run_delivers`,
  `report_replaces_output`).
-/

namespace DeltaDebug

/-! ## Reading what was delivered -/

namespace FileTree

variable {t : FileTree} {cwd p : Path} {text : List UInt8} {content : Candidate}

theorem read_of_file {executable : Bool} (h : t.resolve cwd text = .ok p)
    (hfile : t.lookup p = some (.file content executable)) : t.read cwd text = .ok content := by
  have hstat : t.stat cwd text = .ok (p, .file content executable) := by
    unfold stat
    rw [h]
    dsimp only
    rw [hfile]
  unfold read
  rw [hstat]

end FileTree

namespace CommandLine

/-- A delivery that succeeds puts the content where its path leads, leaves all other places alone,
    and changes no place that a path stands for. -/
theorem deliver_ok {mishap : Option Mishap} {files files' : FileTree} {cwd : Path} {path : String}
    {content : Candidate} (h : deliver mishap files cwd path content = (.ok (), files')) :
    ∃ p, files.resolve cwd (Text.encode path) = .ok p ∧
      files'.lookup p = some (.file content false) ∧
      (∀ q, q ≠ p → files'.lookup q = files.lookup q) ∧
      ∀ text q, files'.resolve cwd text = .ok q ↔ files.resolve cwd text = .ok q := by
  rcases deliver_cases mishap files cwd path content with ⟨e, he⟩ | ⟨p, hp, hplace, hresolve, hok⟩
  · rw [he] at h
    cases h
  · rw [hok] at h
    cases h
    refine ⟨p, hresolve, files.lookup_insert_self hp _, fun q hq => files.lookup_insert_of_ne hq _,
      fun text q => ⟨fun hq => ?_, fun hq => ?_⟩⟩
    · exact FileTree.resolve_mono (fun _ hdir => directory_of_insert_file hp hdir) hq
    · exact FileTree.resolve_mono (fun _ hdir => directory_insert _ hplace hdir) hq

/-! ## Both deliveries -/

/-- Where the minimized input goes. -/
def Arguments.outputPath (a : Arguments) : String := a.output.getD (defaultOutput a.input)

/-- The report goes to the place of the minimized input. -/
def Arguments.SharesPlace (a : Arguments) (files : FileTree) (cwd : Path) : Prop :=
  ∃ path p, a.report = some path ∧ files.resolve cwd (Text.encode path) = .ok p ∧
    files.resolve cwd (Text.encode a.outputPath) = .ok p

/-- What is read at the output path after both deliveries: the minimized input, unless the report
    went to the same place. -/
theorem deliverAll_ok {s : Setting} {files files' : FileTree} {r : Report} {stdout : String}
    (houtput : r.output = r.args.outputPath) (h : deliverAll s files r = .ok (stdout, files')) :
    (¬ r.args.SharesPlace files s.cwd →
      files'.read s.cwd (Text.encode r.args.outputPath) = .ok r.result.minimized) ∧
    (r.args.SharesPlace files s.cwd →
      files'.read s.cwd (Text.encode r.args.outputPath) =
        .ok (Text.encode (r.text r.args.format))) := by
  unfold deliverAll at h
  dsimp only at h
  rw [houtput] at h
  split at h
  case h_1 => cases h
  case h_2 files1 hfirst =>
    obtain ⟨p, hp, hlookup, _, hsame⟩ := deliver_ok hfirst
    split at h
    case h_1 hreport =>
      cases h
      refine ⟨fun _ => FileTree.read_of_file ((hsame _ _).mpr hp) hlookup, ?_⟩
      rintro ⟨path, _, hsome, _⟩
      rw [hreport] at hsome
      cases hsome
    case h_2 path hreport =>
      split at h
      case h_1 => cases h
      case h_2 files2 hsecond =>
        cases h
        obtain ⟨q, hq, hlookup', hkept, hsame'⟩ := deliver_ok hsecond
        have hread : files'.resolve s.cwd (Text.encode r.args.outputPath) = .ok p :=
          (hsame' _ _).mpr ((hsame _ _).mpr hp)
        -- the report's path stood for `q` before the first delivery, too
        have hq' : files.resolve s.cwd (Text.encode path) = .ok q := (hsame _ _).mp hq
        refine ⟨fun hapart => ?_, ?_⟩
        · have hne : p ≠ q := by
            rintro rfl
            exact hapart ⟨path, p, hreport, hq', hp⟩
          exact FileTree.read_of_file hread ((hkept p hne).trans hlookup)
        · rintro ⟨path', p', hreport', hpath', houtput'⟩
          rw [hreport] at hreport'
          cases hreport'
          rw [hp] at houtput'
          rw [hq'] at hpath'
          cases houtput'
          cases hpath'
          exact FileTree.read_of_file hread hlookup'

/-! ## Runs -/

/-- **What a run that succeeds delivers.** Whatever the command line, the settings, the answers and
    the mishaps are, and whatever the target does to the files: a run that ends with 0 made a search
    that succeeded. If the report goes to no file, or to a file in another place, the file at the
    output path then has exactly the bytes of the result. If the report goes to the same place, that
    file has the text of the report instead. -/
theorem successful_run_delivers (launch : Launcher) (s : Setting) (args : List String)
    (a : Arguments) (hparse : Arguments.parse args = .ok a)
    (hzero : (runArguments launch s args).exitCode = 0) :
    ∃ (report : Report) (session : Session launch.World),
      Searched launch s a (.ok report.result, session) ∧
      report.args = a ∧ report.output = a.outputPath ∧
      (¬ a.SharesPlace (launch.files session.oracle) s.cwd →
        (runArguments launch s args).files.read s.cwd (Text.encode a.outputPath) =
          .ok report.result.minimized) ∧
      (a.SharesPlace (launch.files session.oracle) s.cwd →
        (runArguments launch s args).files.read s.cwd (Text.encode a.outputPath) =
          .ok (Text.encode (report.text a.format))) := by
  have hrun : runArguments launch s args = run launch s a := by
    unfold runArguments
    rw [hparse]
  rw [hrun] at hzero ⊢
  have hran := run_cases launch s a
  rw [hzero] at hran
  generalize (run launch s a).files = files at hran ⊢
  generalize hcode : 0 = code at hran
  have hfailure : ∀ f : Failure, f.exitCode ≠ 0 := by
    intro f
    cases f <;> nofun
  cases hran with
  | unprepared => exact absurd hcode.symm (hfailure _)
  | unsearched => exact absurd hcode.symm (hfailure _)
  | undelivered => exact absurd hcode.symm (hfailure _)
  | @delivered session report stdout files hsearched hargs houtput hdeliver =>
    subst hargs
    exact ⟨report, session, hsearched, rfl, houtput, deliverAll_ok houtput hdeliver⟩

/-- There is one input, and nothing goes wrong from outside. -/
def Setting.calm : Setting := { Setting.fullDisk with mishaps := [] }

/-- The arguments that name a target, an input and a file for the report. -/
def Arguments.reporting (path : String) : Arguments :=
  { target := "t", input := "in", report := some path }

/-- With the report in a file of its own, the output file has the result; with the report in the
    output file, it has the report. -/
theorem successful_run_delivers_calm :
    (∃ (report : Report) (session : Session FileTree),
      Searched (.answering (failsOn [98])) .calm (.reporting "r") (.ok report.result, session) ∧
      (runArguments (.answering (failsOn [98])) .calm ["t", "in", "--report", "r"]).files.read []
        (Text.encode "in.delta") = .ok report.result.minimized) ∧
    ∃ report : Report,
      (runArguments (.answering (failsOn [98])) .calm
        ["t", "in", "--report", "in.delta"]).files.read [] (Text.encode "in.delta") =
          .ok (Text.encode (report.text .text)) := by
  have hspares : ∀ a, TargetSpares (.answering (failsOn [98])) .calm a :=
    fun _ _ _ _ _ _ _ hw => hw
  refine ⟨?_, ?_⟩
  · obtain ⟨report, session, hsearched, _, _, hread, _⟩ := successful_run_delivers
      (.answering (failsOn [98])) .calm ["t", "in", "--report", "r"] (.reporting "r")
      (by decide +kernel) (by decide +kernel)
    refine ⟨report, session, hsearched, hread ?_⟩
    rw [hsearched.files_eq (hspares _)]
    have hapart : Setting.calm.files.resolve [] (Text.encode "r") ≠
        Setting.calm.files.resolve [] (Text.encode "in.delta") := by decide +kernel
    rintro ⟨path, p, hreport, hpath, houtput⟩
    cases hreport
    exact hapart (hpath.trans houtput.symm)
  · obtain ⟨report, session, hsearched, _, _, _, hread⟩ := successful_run_delivers
      (.answering (failsOn [98])) .calm ["t", "in", "--report", "in.delta"] (.reporting "in.delta")
      (by decide +kernel) (by decide +kernel)
    refine ⟨report, hread ?_⟩
    rw [hsearched.files_eq (hspares _)]
    exact ⟨"in.delta", [Text.encode "in.delta"], rfl, by decide +kernel, by decide +kernel⟩

/-- A run that ends with 0 after a search with the result `b`, and the file at the output path has
    the report. -/
theorem report_replaces_output :
    Arguments.parse ["t", "in", "--report", "in.delta"] = .ok (.reporting "in.delta") ∧
    (Arguments.reporting "in.delta").outputPath = "in.delta" ∧
    (runArguments (.answering (failsOn [98])) .calm ["t", "in", "--report", "in.delta"]).exitCode =
      0 ∧
    (∃ result session,
      Searched (.answering (failsOn [98])) .calm (.reporting "in.delta") (.ok result, session) ∧
      result.minimized = [98]) ∧
    (runArguments (.answering (failsOn [98])) .calm ["t", "in", "--report", "in.delta"]).files.read
      [] (Text.encode "in.delta") =
        .ok (Text.encode ("original inputs size: 1\nminimized input size: 1\n" ++
          "oracle invocations: 0\nunresolved verdicts: 0")) := by
  have hprepare : prepare .calm (.reporting "in.delta") =
      .ok (⟨none, 1, false, none, none, [], []⟩, [98]) := by
    with_unfolding_all rfl
  refine ⟨by decide +kernel, by decide +kernel, by decide +kernel, ?_, by decide +kernel⟩
  exact ⟨_, _, ⟨_, _, hprepare, rfl⟩, rfl⟩

end CommandLine

end DeltaDebug
