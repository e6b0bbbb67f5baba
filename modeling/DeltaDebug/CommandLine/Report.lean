import DeltaDebug.Json.Printer
import DeltaDebug.Result.Format
import DeltaDebug.Settings.Resolve
import DeltaDebug.Sha256
import DeltaDebug.CommandLine.Arguments

/-
  The report on a minimization: what was run on what, with what result.
-/

namespace DeltaDebug.CommandLine

/-- A file that takes part in a run, known by its size and digest. -/
structure InputInfo where
  role : String
  path : String
  size : Nat
  sha256 : String
deriving DecidableEq

namespace InputInfo

/-- Describes a file by its bytes. -/
def ofBytes (role path : String) (bytes : Candidate) : InputInfo :=
  ⟨role, path, bytes.length, Hex.encode (Sha256.digest bytes)⟩

def toJson (i : InputInfo) : Json :=
  .obj [("role", .str i.role), ("path", .str i.path), ("size", .ofNat i.size),
    ("sha256", .str i.sha256)]

end InputInfo

/-- What the clock said. -/
structure Times where
  startedAt : String
  finishedAt : String
  durationMs : Nat

/-- The name of the tool, in reports and where its version is asked for. -/
def toolName : String := "deltamin"

def toolVersion : String := "0.1.0"

/-- A report. -/
structure Report where
  gitSha : String
  args : Arguments
  settings : Settings
  output : String
  original : Candidate
  times : Times
  result : Result

namespace Report

def orNull {α : Type} (f : α → Json) : Option α → Json
  | none => .null
  | some a => f a

/-- The report as JSON, its members in a fixed order. -/
def toJson (r : Report) : Json :=
  .obj [
    ("schema_version", .str "0.1"),
    ("tool", .obj [("name", .str toolName), ("version", .str toolVersion),
      ("git_sha", .str r.gitSha)]),
    ("invocation", .obj [
      ("target", .str r.args.target),
      ("target_args", .arr (r.settings.targetArgs.map .str)),
      ("input", .str r.args.input),
      ("output", .str r.output),
      ("timeout_ms", orNull .ofNat r.settings.timeoutMs),
      ("jobs", .ofNat r.settings.jobs),
      ("double_check", .bool r.settings.doubleCheck),
      ("crash_pattern", orNull (.str ·.text) r.settings.crashPattern)]),
    ("inputs", .arr [
      (InputInfo.ofBytes "original" r.args.input r.original).toJson,
      (InputInfo.ofBytes "minimized" r.output r.result.minimized).toJson]),
    ("status", .str "minimized"),
    ("exit_code", .ofNat 0),
    ("started_at", .str r.times.startedAt),
    ("finished_at", .str r.times.finishedAt),
    ("duration_ms", .ofNat r.times.durationMs),
    ("result", r.result.toJson)]

/-- The four lines of the short report. -/
def summary (r : Report) : String :=
  s!"original inputs size: {r.result.originalSize}\n" ++
  s!"minimized input size: {r.result.minimizedSize}\n" ++
  s!"oracle invocations: {r.result.invocationCount}\n" ++
  s!"unresolved verdicts: {r.result.unresolvedCount}"

/-- The report in a format. -/
def text (r : Report) : ReportFormat → String
  | .json => r.toJson.pretty 0
  | .text => r.summary

end Report

end DeltaDebug.CommandLine
