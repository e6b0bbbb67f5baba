import DeltaDebug.Event

/-
  A search in progress: the oracle's state, the running counts, and the record of everything that
  was asked and logged. The record is what the statements about calls and log lines speak of.
-/

namespace DeltaDebug

/-- The verdict on one candidate and the calls spent on it; no verdict if the probe was skipped
or abandoned. -/
structure Probe where
  invocations : Nat
  verdict : Option Verdict
deriving DecidableEq

namespace Probe

/-- A probe that was not run, or not to its end, after `n` completed calls. -/
def abandoned (n : Nat) : Probe := ⟨n, none⟩

def fails (p : Probe) : Bool := p.verdict = some .fails

end Probe

/-- The counts that a search keeps. -/
structure Tally where
  invocations : Nat := 0
  unresolved : Nat := 0
  cancelled : Nat := 0
  complementReductions : Nat := 0
  subsetReductions : Nat := 0
  granularityIncreases : Nat := 0
deriving DecidableEq

namespace Tally

/-- Counts one probe. -/
def record (t : Tally) (p : Probe) : Tally :=
  let t := { t with invocations := t.invocations + p.invocations }
  match p.verdict with
  | some .unresolved => { t with unresolved := t.unresolved + 1 }
  | none => { t with cancelled := t.cancelled + 1 }
  | some _ => t

/-- Counts a reduction. -/
def adopt (t : Tally) : Phase → Tally
  | .complement => { t with complementReductions := t.complementReductions + 1 }
  | .subset => { t with subsetReductions := t.subsetReductions + 1 }

/-- Counts a refinement. -/
def refine (t : Tally) : Tally := { t with granularityIncreases := t.granularityIncreases + 1 }

/-- Counts a probe that came to nothing. -/
def cancel (t : Tally) : Tally := { t with cancelled := t.cancelled + 1 }

end Tally

/-- One thing that happened in a search. -/
inductive Entry where
  | call (candidate : Candidate) (answer : Answer)
  | event (e : Event)

/-- A search in progress. -/
structure Session (σ : Type) where
  /-- The oracle's own state. -/
  oracle : σ
  tally : Tally
  /-- Everything that happened, last first. -/
  trace : List Entry

namespace Session

variable {σ : Type}

/-- A session in which nothing has happened yet. -/
def start (oracle : σ) : Session σ := ⟨oracle, {}, []⟩

/-- Writes a log line. -/
def note (s : Session σ) (e : Event) : Session σ := { s with trace := .event e :: s.trace }

def record (s : Session σ) (p : Probe) : Session σ := { s with tally := s.tally.record p }

/-- Asks the oracle about a candidate; nobody cancels the call. -/
def ask (s : Session σ) (o : Oracle σ) (c : Candidate) : Answer × Session σ :=
  let (reply, next) := o.call none c s.oracle
  let events := reply.events.reverse.map (Entry.event ∘ Event.target)
  (reply.answer, { s with oracle := next, trace := .call c reply.answer :: (events ++ s.trace) })

/-- The calls of the oracle, in their order. -/
def calls (s : Session σ) : List (Candidate × Answer) :=
  s.trace.reverse.filterMap fun
    | .call c a => some (c, a)
    | .event _ => none

/-- The log, in its order. -/
def log (s : Session σ) : List Event :=
  s.trace.reverse.filterMap fun
    | .call _ _ => none
    | .event e => some e

end Session

end DeltaDebug
