import DeltaDebug.CommandLine.Delivery
import DeltaDebug.CommandLine.LogFilter
import DeltaDebug.CommandLine.Report
import DeltaDebug.Drive
import DeltaDebug.Search.Interleaving
import DeltaDebug.Target.Launch

/-
  A run of the tool from its arguments to its exit code. Everything that it reads and writes is a
  value: the files, the environment, the clock and the two output channels.
-/

namespace DeltaDebug.CommandLine

/-- What a run starts from. -/
structure Setting where
  cwd : Path
  env : List (String × String)
  files : FileTree
  /-- The time that log lines carry. -/
  logTime : String
  times : Times
  /-- Which step of the first delivery fails from outside, of the second, and so on. -/
  mishaps : List (Option Mishap) := []

/-- What a run leaves. -/
structure Outcome where
  exitCode : Nat
  stdout : String := ""
  stderr : String := ""
  files : FileTree

/-- What ends a run early. -/
inductive Failure where
  /-- The program was called wrongly: exit code 1. -/
  | usage (message : String)
  /-- Something went wrong on the way: exit code 2. -/
  | tool (message : String)
deriving DecidableEq

/-- What a run writes to the error channel at its end. -/
def Failure.text : Failure → String
  | .usage message => message ++ "\n"
  | .tool message => "tool error: " ++ message ++ "\n"

def Failure.exitCode : Failure → Nat
  | .usage _ => 1
  | .tool _ => 2

/-- Where the minimized input goes if nothing else is said. -/
def defaultOutput (input : String) : String := input ++ ".delta"

/-- What a run leaves to others: how targets are turned into oracles, whether there are workers for
a pool, and in what order they move. -/
structure Launcher where
  /-- The files and whatever else the answers of targets may depend on. -/
  World : Type
  /-- The world that a run on these files starts in. -/
  enter : FileTree → World
  files : World → FileTree
  files_enter : ∀ t, files (enter t) = t
  oracle : Host → Target → Oracle World
  /-- Whether a pool can be built; if this is left open, it can. -/
  buildPool : PoolBuilder := fun _ => .ok ()
  /-- How the workers mix their moves; if this is left open, each takes its turn to its end. -/
  schedule : (confirm : Bool) → Option (Pool.Schedule World confirm) := fun _ => none

namespace Launcher

/-- The scan that the options ask for. -/
def scan (launch : Launcher) (opts : Options) (o : Oracle launch.World) : Scan launch.World :=
  match launch.schedule opts.doubleCheck with
  | none => opts.scan o
  | some schedule =>
    if opts.jobs = 1 then scanInOrder o opts.doubleCheck else Pool.scanBy o schedule

/-- Minimizes an input, with a pool if the options ask for one. -/
def minimize (launch : Launcher) (opts : Options) (o : Oracle launch.World) (input : Candidate)
    (s : Session launch.World) : Except (PoolOr SearchError) Result × Session launch.World :=
  opts.pooled launch.buildPool
    (fun s => minimizeWith (launch.scan opts o) opts o input { s with tally := {} }) s

/-- Checks that the input fails, then minimizes it. -/
def drive (launch : Launcher) (opts : Options) (o : Oracle launch.World) (input : Candidate)
    (s : Session launch.World) : Except (PoolOr DriveError) Result × Session launch.World :=
  driveBy (launch.minimize opts) .other (PoolOr.map .search) o input s

end Launcher

/-- The launcher that runs targets. -/
def launcher : Launcher where
  World := FileTree
  enter := id
  files := id
  files_enter _ := rfl
  oracle host t := t.oracle host

/-- Why a session file cannot be used. -/
def loadSettings (s : Setting) (path : Option String) : Except Failure FileSettings :=
  match path with
  | none => .ok {}
  | some path =>
    match s.files.read s.cwd (Text.encode path) with
    | .error e => .error (.tool s!"read config {path}: {e.message}")
    | .ok bytes =>
      match Text.decode? bytes with
      | none => .error (.tool s!"read config {path}: {FileError.notText.message}")
      | some text =>
        match FileSettings.ofText? text with
        | none => .error (.tool s!"parse config {path}: invalid session file")
        | some f => .ok f

/-- What the arguments say about the settings. -/
def Arguments.flags (a : Arguments) : FlagSettings :=
  { timeoutMs := a.timeoutMs, jobs := a.jobs, doubleCheck := a.doubleCheck,
    crashPattern := a.crashPattern, cwd := a.cwd, targetArgs := a.targetArgs }

/-- The settings and the input of a run, or why it does not start. -/
def prepare (s : Setting) (a : Arguments) : Except Failure (Settings × Candidate) := do
  let pathThere (p : String) : Bool := s.files.pathExists s.cwd (Text.encode p)
  if Path.componentCount (Text.encode a.target) > 1 ∧ !pathThere a.target then
    throw (.usage s!"{a.target} not found")
  if !pathThere a.input then throw (.usage s!"{a.input} not found")
  let file ← loadSettings s a.config
  let settings ← match Settings.resolve file a.flags with
    | .ok x => pure x
    | .error e => throw (.tool s!"{e.message}: invalid regular expression")
  match s.files.read s.cwd (Text.encode a.input) with
  | .ok input => return (settings, input)
  | .error e => throw (.tool s!"read {a.input}: {e.message}")

/-- The target that the settings describe. -/
def Settings.target (settings : Settings) (program : String) : Target :=
  { program := program, args := settings.targetArgs, cwd := settings.cwd, env := settings.env,
    timeout := settings.timeoutMs.map Span.ofMillis, crashPattern := settings.crashPattern }

/-- Writes the minimized input, and the report if it has a file. Returns what goes to the output
channel and the files; if that fails, why, and the files as they are then. -/
def deliverAll (s : Setting) (files : FileTree) (r : Report) :
    Except (Failure × FileTree) (String × FileTree) :=
  let mishap (k : Nat) : Option Mishap := (s.mishaps[k]?).join
  match deliver (mishap 0) files s.cwd r.output r.result.minimized with
  | (.error e, files) => .error (.tool e.message, files)
  | (.ok (), files) =>
    let text := r.text r.args.format
    match r.args.report with
    | none => .ok (text ++ "\n", files)
    | some path =>
      match deliver (mishap 1) files s.cwd path (Text.encode text) with
      | (.error e, files) => .error (.tool e.message, files)
      | (.ok (), files) => .ok ("", files)

/-- The log lines that a filter lets pass. -/
def logText (f : LogFilter) (time : String) (events : List Event) : String :=
  String.join ((events.filter f.passes).map fun e => time ++ " " ++ e.line ++ "\n")

/-- Runs the tool on arguments that were read. -/
def run (launch : Launcher) (s : Setting) (a : Arguments) : Outcome :=
  let (filter, complaints) :=
    LogFilter.ofText ((s.env.lookup "RUST_LOG").getD "") a.verbosity
  let opening := String.join (complaints.map (· ++ "\n"))
  let failed (log : String) (files : FileTree) (f : Failure) : Outcome :=
    { exitCode := f.exitCode, stderr := log ++ f.text, files := files }
  match prepare s a with
  | .error f => failed opening s.files f
  | .ok (settings, input) =>
    let oracle := launch.oracle ⟨s.cwd, s.env⟩ (Settings.target settings a.target)
    let opts : Options := { jobs := settings.jobs, doubleCheck := settings.doubleCheck }
    let (outcome, session) := launch.drive opts oracle input (.start (launch.enter s.files))
    let log := opening ++ logText filter s.logTime session.log
    let files := launch.files session.oracle
    match outcome with
    | .error e =>
      failed log files (if e.isUsage then .usage e.message
        else .tool (": ".intercalate ("minimize input" :: e.message :: e.cause?.toList)))
    | .ok result =>
      let report : Report := {
        gitSha := (s.env.lookup "DELTAMIN_GIT_SHA").getD "UNKNOWN"
        args := a, settings := settings
        output := a.output.getD (defaultOutput a.input)
        original := input, times := s.times, result := result }
      match deliverAll s files report with
      | .error (f, files) => failed log files f
      | .ok (stdout, files) =>
        { exitCode := 0, stdout := stdout, stderr := log, files := files }

/-- Runs the tool on a command line. Arguments that cannot be read end it with code 2. -/
def runArguments (launch : Launcher) (s : Setting) (args : List String) : Outcome :=
  match Arguments.parse args with
  | .error .version =>
    { exitCode := 0, stdout := toolName ++ " " ++ toolVersion ++ "\n", files := s.files }
  | .error .help => { exitCode := 0, stdout := helpText, files := s.files }
  | .error r => { exitCode := 2, stderr := "error: " ++ r.message ++ "\n", files := s.files }
  | .ok a => run launch s a
where
  helpText : String :=
    "Minimize a crashing input with delta debugging\n\n" ++
    "Usage: deltamin [OPTIONS] <TARGET> <INPUT> [-- <TARGET_ARGS>...]\n"

end DeltaDebug.CommandLine
