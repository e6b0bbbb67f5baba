import DeltaDebug.Shell.Eval
import DeltaDebug.Target.Wait

/-
  Starting targets and running them on files that are values. A run ends by itself, or it is
  still going on when its time is over; what it has done to the files stays.
-/

namespace DeltaDebug

/-- Where targets are started from. -/
structure Host where
  cwd : Path
  env : List (String × String)

namespace Target

def bytes (s : String) : List UInt8 := Text.encode s

/-- The environment of the target. -/
def fullEnv (t : Target) (host : Host) : List (String × String) :=
  t.env.foldl (fun env (k, v) => env.filter (·.1 ≠ k) ++ [(k, v)]) host.env

/-- Whether anything that the target is given holds a character that ends a text. -/
def holdsNul (t : Target) : Bool :=
  let nul (s : String) : Bool := s.toList.contains '\x00'
  nul t.program || t.args.any nul || t.cwd.any nul || t.env.any fun (k, v) => nul k || nul v

/-- The first line of a script names what runs it. -/
def interpreter? (content : Candidate) : Option (List UInt8) :=
  match content with
  | 35 :: 33 :: rest =>
    let line := (rest.takeWhile (· ≠ 10)).dropWhile fun b => b = 32 || b = 9
    some (line.takeWhile fun b => b ≠ 32 && b ≠ 9 && b ≠ 13)
  | _ => none

/-- Whether what is at a path can be started. -/
def startable (files : FileTree) (cwd : Path) (text : List UInt8) :
    Except FileError (Path × FileEntry) :=
  match files.stat cwd text with
  | .error e => .error e
  | .ok (_, .directory) => .error .permissionDenied
  | .ok (p, .tool n) => if n = "/dev/null" then .error .permissionDenied else .ok (p, .tool n)
  | .ok (p, .file content executable) =>
    if !executable then .error .permissionDenied
    else match interpreter? content with
      | none => .error .notExecutable
      | some [] => .error .notExecutable
      | some i =>
        match files.stat cwd i with
        | .error e => .error e
        | .ok (_, .directory) => .error .permissionDenied
        | .ok (_, .file _ false) => .error .permissionDenied
        | .ok _ => .ok (p, .file content executable)

/-- Looks for a program in directories. One that is there and cannot be started is only reported
if no other is found. -/
def search (files : FileTree) (cwd : Path) (name : List UInt8) : List (List UInt8) →
    (refused : Bool) → Except FileError (Path × FileEntry)
  | [], refused => .error (if refused then .permissionDenied else .notFound)
  | dir :: rest, refused =>
    let full := if dir = [] then name else dir ++ Path.slash :: name
    match startable files cwd full with
    | .ok x => .ok x
    | .error .permissionDenied => search files cwd name rest true
    | .error .notExecutable => .error .notExecutable
    | .error _ => search files cwd name rest refused

/-- What a target starts and where: the directory first, then the program, which is looked for in
the directories of `PATH` if its name has no slash. -/
def locate (t : Target) (host : Host) (files : FileTree) :
    Except FileError (Path × Path × FileEntry) := do
  if t.holdsNul then throw .nulByte
  let cwd ← match t.cwd with
    | none => pure host.cwd
    | some d =>
      match files.stat host.cwd (bytes d) with
      | .error e => throw e
      | .ok (p, .directory) => pure p
      | .ok _ => throw .notADirectory
  let name := bytes t.program
  if name = [] then throw .notFound
  else if name.contains Path.slash then
    let (p, e) ← startable files cwd name
    return (cwd, p, e)
  else
    let dirs := (((t.fullEnv host).lookup "PATH").getD "/bin:/usr/bin").splitOn ":"
    let (p, e) ← search files cwd name (dirs.map bytes) false
    return (cwd, p, e)

/-- How many commands a script may run before it counts as endless. -/
def commandBudget : Nat := 300000

/-- Runs a target on a candidate until it ends or is killed. -/
def execute (t : Target) (host : Host) (files : FileTree) (patience : Patience)
    (start : Path × Path × FileEntry) (candidate : Candidate) :
    Option Ended × Candidate × FileTree :=
  let (cwd, path, entry) := start
  let latin (s : String) : String := Shell.bytesText (bytes s)
  let killTime := t.killTime patience
  -- error output is only kept if a pattern asks for it
  let errors : Shell.OpenChannel :=
    ⟨if t.crashPattern.isSome then .sink [] else .null, false, true⟩
  let machine : Shell.Machine := {
    files := files
    channels := #[⟨.source (candidate.map fun b => Char.ofNat b.toNat), true, false⟩,
      ⟨.null, false, true⟩, errors]
    deadline := killTime.map (· / Span.ofMillis 1)
    budget := commandBudget
    nextPid := 4243
    proc := { pid := 4242, name := latin t.program, cwd := cwd, fds := [(0, 0), (1, 1), (2, 2)] } }
  let env := (t.fullEnv host).map fun (k, v) => (latin k, latin v)
  let machine := { machine with proc := { machine.proc with
    vars := env.map fun (k, v) => (k, ⟨some v, true, false⟩) } }
  -- a target that is killed at once has not done anything
  if killTime = some 0 then (none, [], files)
  else
    let whole : Shell.Run Nat :=
      Shell.runEntry (4 * commandBudget) path entry (latin t.program) (t.args.map latin) env
    let stderrOf (m : Shell.Machine) : Candidate :=
      match (m.channels[2]?).map Shell.OpenChannel.channel with
      | some (.sink chunks) => Shell.textBytes (String.join chunks.reverse)
      | _ => []
    match whole machine with
    | .ok status m => (some ⟨.ofMillis m.clock, .code (status % 256)⟩, stderrOf m, m.files)
    | .error (.killed _ signal) m => (some ⟨.ofMillis m.clock, .signal signal⟩, stderrOf m, m.files)
    | .error .stopped m => (none, stderrOf m, m.files)
    | .error _ m => (some ⟨.ofMillis m.clock, .code m.proc.status⟩, stderrOf m, m.files)

/-- The oracle that runs the target. Its state is the files. -/
def oracle (t : Target) (host : Host) : Oracle FileTree where
  call patience candidate files :=
    match patience with
    | some 0 => (⟨.ok none, []⟩, files)
    | _ =>
      match t.locate host files with
      | .error e => (⟨.error (.spawn t.program e.message), []⟩, files)
      | .ok start =>
        let (ended, stderr, files) := t.execute host files patience start candidate
        let reply := t.run? (t.turns ended patience) { stderr := .done stderr }
        (reply.getD ⟨.ok none, []⟩, files)

end Target

end DeltaDebug
