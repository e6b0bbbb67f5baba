import DeltaDebug.Decimal.Shortest
import DeltaDebug.Oracle.Basic
import DeltaDebug.Search.State
import DeltaDebug.Text.Quoted

/-
  The log of a search: what happened, how urgent it is, and the line it is written as.
-/

namespace DeltaDebug

/-- How urgent a log line is; the later, the more urgent. -/
inductive Level where
  | trace
  | debug
  | info
  | warn
  | error
deriving DecidableEq

namespace Level

/-- The word for a level, five characters wide. -/
def text : Level → String
  | .trace => "TRACE"
  | .debug => "DEBUG"
  | .info => " INFO"
  | .warn => " WARN"
  | .error => "ERROR"

def rank : Level → Nat
  | .trace => 0
  | .debug => 1
  | .info => 2
  | .warn => 3
  | .error => 4

end Level

/-- What a search logs. -/
inductive Event where
  /-- A round begins. -/
  | probingRound (len granularity : Nat)
  /-- A smaller candidate was adopted. -/
  | reducedCandidate (phase : Phase) (index before after : Nat)
  /-- The chunks become smaller. -/
  | refiningPartition (len granularity : Nat)
  /-- The oracle did not come to a verdict. -/
  | verdictUnresolved (len : Nat)
  /-- A failure was not seen a second time. -/
  | failureNotConfirmed (len : Nat) (second : Verdict)
  /-- An error at an index that an in-order search would not have reached. -/
  | errorIgnored (index : Nat) (error : OracleError)
  /-- The search is over. -/
  | finished (original minimized invocations unresolved : Nat)
  /-- The input is minimized; `ratio` is the removed part of it, as bits of a binary number. -/
  | inputMinimized (original minimized : Nat) (ratio : UInt64)
  /-- Something happened to the target. -/
  | target (e : TargetEvent)
deriving DecidableEq

/-- An exit code, or that there is none. -/
def codeText : Option Nat → String
  | none => "None"
  | some n => s!"Some({n})"

/-- Ratios in the log are positional from a ten-thousandth on. -/
def ratioStyle : Decimal.Style := ⟨-3, 16⟩

namespace Event

def level : Event → Level
  | .verdictUnresolved .. | .failureNotConfirmed .. => .warn
  | .reducedCandidate .. | .finished .. | .inputMinimized .. => .info
  | .probingRound .. | .refiningPartition .. | .errorIgnored .. | .target _ => .debug

/-- The part of the program that a line comes from, by which logs are filtered. -/
def origin : Event → String
  | .inputMinimized .. => "deltamin_core::driver"
  | .target _ => "deltamin_core::oracle_process"
  | _ => "deltamin_core::minimize_ddmin"

/-- The message with its fields. -/
def text : Event → String
  | .probingRound len granularity => s!"probing round len={len} granularity={granularity}"
  | .reducedCandidate phase index before after =>
    s!"reduced candidate phase={Text.quoted phase.name} index={index} from={before} to={after}"
  | .refiningPartition len granularity =>
    s!"refining partition len={len} granularity={granularity}"
  | .verdictUnresolved len => s!"oracle verdict unresolved len={len}"
  | .failureNotConfirmed len second =>
    s!"failing verdict not confirmed len={len} second={Text.quoted second.name}"
  | .errorIgnored index error =>
    s!"ignoring error above adopted candidate index={index} error={error.message}"
  | .finished original minimized invocations unresolved =>
    s!"minimization finished original={original} minimized={minimized} " ++
    s!"invocations={invocations} unresolved={unresolved}"
  | .inputMinimized original minimized ratio =>
    s!"input minimized original={original} minimized={minimized} " ++
    s!"ratio={Decimal.text ratioStyle ratio}"
  | .target (.timedOut limit) => s!"target timed out timeout=Some({Span.text limit})"
  | .target (.failed code) => s!"target failed code={codeText code}"
  | .target (.otherFault code) => s!"target failed with a different fault code={codeText code}"

/-- The whole line, without the time. -/
def line (e : Event) : String := s!"{e.level.text} {e.origin}: {e.text}"

end Event

end DeltaDebug
