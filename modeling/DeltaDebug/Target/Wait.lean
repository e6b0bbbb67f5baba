import DeltaDebug.Target.Basic

/-
  Waiting for a target. The wait goes in turns: a turn looks at the clock, waits for a slice of
  time, and looks at the cancel flag. What the turns find is given as a list, so that the wait is
  a function of it.
-/

namespace DeltaDebug

/-- What waiting for one slice finds. -/
inductive SliceEnd where
  | exited (status : ExitStatus)
  | running
  /-- The wait itself failed. -/
  | failed (cause : String)
deriving DecidableEq

/-- What one turn of the wait finds. -/
structure Turn where
  /-- The clock at the start of the turn, counted from the start of the wait. -/
  elapsed : Span
  slice : SliceEnd
  /-- Whether the cancel flag is up after the slice. -/
  raised : Bool

/-- How a wait ends. -/
inductive Completion where
  | exited (status : ExitStatus)
  | timedOut
  | cancelled
  | failed (cause : String)
deriving DecidableEq

/-- A wait: how it ended, `none` if the turns ran out, which slices it asked for, and how often it
killed the target. -/
structure Wait where
  completion : Option Completion
  slices : List Span
  kills : Nat
deriving DecidableEq

namespace Target

/-- How long a turn that starts at `elapsed` waits: to the next look or to the end of the time,
whichever is first; `none` if the time is over. -/
def sliceAt (t : Target) (elapsed : Span) : Option Span :=
  match t.timeout with
  | none => some t.pollInterval
  | some limit => if limit ≤ elapsed then none else some (min (limit - elapsed) t.pollInterval)

/-- Waits for the target. The time limit is looked at first, then the target, then the flag. -/
def wait (t : Target) : List Turn → Wait
  | [] => ⟨none, [], 0⟩
  | turn :: rest =>
    match t.sliceAt turn.elapsed with
    | none => ⟨some .timedOut, [], 1⟩
    | some slice =>
      match turn.slice with
      | .failed cause => ⟨some (.failed cause), [slice], 0⟩
      | .exited status => ⟨some (.exited status), [slice], 0⟩
      | .running =>
        if turn.raised then ⟨some .cancelled, [slice], 1⟩
        else
          let w := t.wait rest
          ⟨w.completion, slice :: w.slices, w.kills⟩

end Target

/-- How writing the candidate to the target's input went. -/
inductive Feeding where
  | done
  /-- The target closed its input early. -/
  | brokenPipe
  | failed (cause : String)
  /-- The writer itself broke off. -/
  | panicked

/-- How reading the target's error output went. -/
inductive Collection where
  | done (bytes : Candidate)
  | failed (cause : String)
  /-- The reader itself broke off. -/
  | panicked

/-- What is left when a target has ended. -/
structure Remains where
  feeding : Feeding := .done
  /-- Without a crash pattern the error output is not read, and this says nothing. -/
  stderr : Collection

/-- Why the candidate was not written; a target that closes its input early is at fault itself. -/
def Feeding.fault? : Feeding → Option OracleError
  | .done => none
  | .brokenPipe => none
  | .failed cause => some (.io "write candidate to target stdin" cause)
  | .panicked => some (.io "stdin writer" "thread panicked")

namespace Target

/-- The error output as far as it was read. -/
def captured (t : Target) (remains : Remains) : Except OracleError Candidate :=
  match t.crashPattern, remains.stderr with
  | none, _ => .ok []
  | some _, .done bytes => .ok bytes
  | some _, .failed cause => .error (.io "read target stderr" cause)
  | some _, .panicked => .error (.io "stderr reader" "thread panicked")

/-- The answer for a wait that ended. -/
def answer (t : Target) (c : Completion) (remains : Remains) : Reply :=
  match c with
  | .failed cause => ⟨.error (.io "wait for target" cause), []⟩
  | .cancelled => ⟨.ok none, []⟩
  | .timedOut => ⟨.ok (some .unresolved), [.timedOut (t.timeout.getD 0)]⟩
  | .exited status =>
    match remains.feeding.fault? with
    | some e => ⟨.error e, []⟩
    | none =>
      match t.captured remains with
      | .error e => ⟨.error e, []⟩
      | .ok stderr =>
        let (verdict, events) := t.classify status stderr
        ⟨.ok (some verdict), events⟩

/-- The answer of a run with these turns; `none` if they end before the wait does. -/
def run? (t : Target) (turns : List Turn) (remains : Remains) : Option Reply :=
  (t.wait turns).completion.map fun c => t.answer c remains

end Target

/-! ## The turns of a run whose end is known -/

/-- A run of a target: when and how it ended, if it did. -/
structure Ended where
  time : Span
  status : ExitStatus

namespace Target

/-- The turns from a moment on, at most `count` of them. `reading` is the number of the next look
at the flag. -/
def turnsFrom (t : Target) (ended : Option Ended) (patience : Patience) :
    (count : Nat) → (elapsed : Span) → (reading : Nat) → List Turn
  | 0, _, _ => []
  | count + 1, elapsed, reading =>
    let next := elapsed + (t.sliceAt elapsed).getD 0
    let slice := match ended with
      | some e => if e.time < next then SliceEnd.exited e.status else .running
      | none => .running
    let raised := match patience with
      | some clear => decide (clear ≤ reading)
      | none => false
    ⟨elapsed, slice, raised⟩ :: turnsFrom t ended patience count next (reading + 1)

/-- When a target that goes on running is killed. -/
def killTime (t : Target) (patience : Patience) : Option Span :=
  match t.timeout, patience with
  | none, none => none
  | some limit, none => some limit
  | none, some clear => some (clear * t.pollInterval)
  | some limit, some clear => some (min limit (clear * t.pollInterval))

/-- The turns of a whole run: as many as there are until the target ends or is killed. -/
def turns (t : Target) (ended : Option Ended) (patience : Patience) : List Turn :=
  let last := match ended, t.killTime patience with
    | some e, some k => min e.time k
    | some e, none => e.time
    | none, some k => k
    | none, none => 0
  t.turnsFrom ended patience (last / t.pollInterval + 2) 0 1

end Target

end DeltaDebug
