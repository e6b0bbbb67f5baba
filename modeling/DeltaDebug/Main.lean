import DeltaDebug.CommandLine.Instant
import DeltaDebug.CommandLine.Run
import Std.Time.DateTime.Timestamp

/-
  The program: reads the files that the command line names, runs the tool on them, writes the files
  that changed, and prints what there is to print.
-/

namespace DeltaDebug.Main

open CommandLine

/-- The directory that relative paths are seen from. -/
def workDir : Path := FileTree.ofText "/work"

/-- The place of a written path. -/
def place (path : String) : Path :=
  let text := Text.encode path
  (if Path.isAbsolute text then [] else workDir) ++ Path.components text

/-- The paths that a command line may lead to. -/
def namedPaths (args : List String) : List String :=
  match Arguments.parse args with
  | .error _ => []
  | .ok a => a.target :: a.input :: (a.config.toList ++ a.targetArgs)

/-- The paths that a command line writes to. -/
def writtenPaths (args : List String) : List String :=
  match Arguments.parse args with
  | .error _ => []
  | .ok a => a.output.getD (defaultOutput a.input) :: a.report.toList

/-- Takes the files with these names into a tree. Files that cannot be read stay away. -/
def load (paths : List String) : IO FileTree := do
  let mut tree := FileTree.system.makeDirectories workDir
  for path in paths do
    let p := place path
    if (tree.lookup p).isNone then
      try
        let bytes ← IO.FS.readBinFile path
        tree := (tree.makeDirectories p.dropLast).insert p (.file bytes.toList true)
      catch _ => pure ()
  return tree

/-- Writes the files with these names that are different now. -/
def save (before after : FileTree) (paths : List String) : IO Unit := do
  for path in paths do
    match after.lookup (place path) with
    | some (.file content _) =>
      let same := match before.lookup (place path) with
        | some (.file old _) => old = content
        | _ => false
      if !same then IO.FS.writeBinFile path ⟨content.toArray⟩
    | _ => pure ()

/-- The environment as far as the tool and common targets look at it. -/
def environment : IO (List (String × String)) := do
  let mut env := []
  for name in ["PATH", "HOME", "RUST_LOG", "DELTAMIN_GIT_SHA"] do
    if let some v ← IO.getEnv name then env := env ++ [(name, v)]
  return env

/-- The seconds and microseconds on the clock. -/
def now : IO (Nat × Nat) := do
  let t ← Std.Time.Timestamp.now
  let nanos := t.toNanosecondsSinceUnixEpoch.val.toNat
  return (nanos / 1000000000, nanos / 1000 % 1000000)

end DeltaDebug.Main

/-- Runs the tool and returns its exit code. -/
def main (args : List String) : IO UInt32 := do
  let before ← DeltaDebug.Main.load (DeltaDebug.Main.namedPaths args)
  let (seconds, micros) ← DeltaDebug.Main.now
  let text := DeltaDebug.CommandLine.reportTime seconds
  let setting : DeltaDebug.CommandLine.Setting := {
    cwd := DeltaDebug.Main.workDir
    env := ← DeltaDebug.Main.environment
    files := (DeltaDebug.Main.writtenPaths args).foldl
      (fun t p => t.makeDirectories (DeltaDebug.Main.place p).dropLast) before
    logTime := DeltaDebug.CommandLine.logTime seconds micros
    times := ⟨text, text, 0⟩ }
  let outcome := DeltaDebug.CommandLine.runArguments DeltaDebug.CommandLine.launcher setting args
  DeltaDebug.Main.save before outcome.files (DeltaDebug.Main.writtenPaths args)
  (← IO.getStderr).putStr outcome.stderr
  (← IO.getStdout).putStr outcome.stdout
  return outcome.exitCode.toUInt32
