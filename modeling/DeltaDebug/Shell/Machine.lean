import DeltaDebug.FileTree.Basic
import DeltaDebug.Partition
import DeltaDebug.Shell.Script

/-
  The machine that scripts run on: files, open channels, a clock, and the process that runs.
  Time passes only in commands that wait. A machine with a deadline stops there.
-/

namespace DeltaDebug.Shell

/-- The bytes that a text of the command language stands for. -/
def textBytes (s : String) : List UInt8 := s.toList.map fun c => c.toNat.toUInt8

/-- Bytes as a text of the command language. -/
def bytesText (bs : List UInt8) : String := String.ofList (bs.map fun b => Char.ofNat b.toNat)

/-- What an open channel leads to. -/
inductive Channel where
  /-- Text that is still to be read. -/
  | source (rest : List Char)
  /-- Text that was written, the latest first. -/
  | sink (chunks : List String)
  /-- A file at an offset; with `atEnd`, what is written goes to its end. -/
  | file (path : Path) (offset : Nat) (atEnd : Bool)
  | null

/-- A channel and what may be done with it. -/
structure OpenChannel where
  channel : Channel
  readable : Bool
  writable : Bool

/-- A variable. Without a value it is only marked. -/
structure Variable where
  value : Option String
  exported : Bool := false
  readOnly : Bool := false

/-- A command that runs in the background, and when it ends; `none` if it never does. -/
structure Job where
  pid : Nat
  finish : Option Nat
  status : Nat

/-- The switches of a shell. -/
structure Switches where
  exitOnError : Bool := false
  unsetIsError : Bool := false
  noGlob : Bool := false
  trace : Bool := false

/-- A process that runs scripts. -/
structure Process where
  pid : Nat
  /-- What messages call the script. -/
  name : String
  args : List String := []
  vars : List (String × Variable) := []
  functions : List (String × Command) := []
  cwd : Path
  /-- Descriptors and the channels that they name. -/
  fds : List (Nat × Nat)
  switches : Switches := {}
  status : Nat := 0
  hereDocs : List (Nat × Word) := []
  traps : List (String × String) := []
  jobs : List Job := []
  lastJob : Option Nat := none
  loopDepth : Nat := 0
  callDepth : Nat := 0
  /-- Variables to bring back when the functions that are running end, innermost first. -/
  locals : List (List (String × Option Variable)) := []
  /-- Whether the status at hand is looked at, so that it is no error. -/
  tested : Bool := false
  line : Nat := 1
  /-- Whether the process is a copy that a script made of its own. -/
  isCopy : Bool := false

/-- The machine. -/
structure Machine where
  files : FileTree
  channels : Array OpenChannel
  /-- Milliseconds since the start. -/
  clock : Nat := 0
  deadline : Option Nat := none
  /-- How many more commands are run before the script counts as endless. -/
  budget : Nat
  nextPid : Nat
  proc : Process

/-- Why the commands that follow are not run. -/
inductive Flow where
  | breakLoop (levels : Nat)
  | nextTurn (levels : Nat)
  | returned
  | exited
  /-- A signal ended the process with that number. -/
  | killed (pid signal : Nat)
  /-- The machine stopped while the script was still running. -/
  | stopped

abbrev Run := EStateM Flow Machine

namespace Run

def proc : Run Process := return (← get).proc

def modifyProc (f : Process → Process) : Run Unit :=
  modify fun m => { m with proc := f m.proc }

def setStatus (n : Nat) : Run Unit := modifyProc fun p => { p with status := n }

/-- Counts one command. -/
def charge : Run Unit := do
  let m ← get
  if m.budget = 0 then throw .stopped
  else set { m with budget := m.budget - 1 }

/-- Lets time pass until a moment, or until the deadline if that is first. -/
def sleepUntil (time : Nat) : Run Unit := do
  let m ← get
  if time ≤ m.clock then return
  match m.deadline with
  | some d =>
    if d ≤ time then
      set { m with clock := d }
      throw .stopped
    else set { m with clock := time }
  | none => set { m with clock := time }

/-- Ends the process with a status. -/
def exit {α : Type} (status : Nat) : Run α := do
  setStatus status
  throw .exited

/-! ## Channels -/

/-- The channel that a descriptor names. -/
def channelOf (fd : Nat) : Run (Option Nat) := return (← proc).fds.lookup fd

def openChannel (c : OpenChannel) : Run Nat := do
  let m ← get
  set { m with channels := m.channels.push c }
  return m.channels.size

/-- Points a descriptor to a channel. -/
def setFd (fd : Nat) (channel : Option Nat) : Run Unit := modifyProc fun p =>
  let rest := p.fds.filter (·.1 ≠ fd)
  { p with fds := match channel with
    | some c => (fd, c) :: rest
    | none => rest }

/-- A file's content with a text written into it at an offset. -/
def splice (old new : List UInt8) (offset : Nat) : List UInt8 :=
  let head := old.take offset
  head ++ List.replicate (offset - head.length) 0 ++ new ++ old.drop (offset + new.length)

/-- Writes to a channel; `false` if that cannot be done. -/
def writeChannel (i : Nat) (s : String) : Run Bool := do
  let m ← get
  match m.channels[i]? with
  | none => return false
  | some c =>
    if !c.writable then return false
    else match c.channel with
      | .null => return true
      | .source _ => return false
      | .sink _ =>
        set { m with channels := m.channels.modify i fun c =>
          { c with channel := match c.channel with
            | .sink chunks => .sink (s :: chunks)
            | other => other } }
        return true
      | .file path offset atEnd =>
        match m.files.lookup path with
        | some (.file content exec) =>
          let new := textBytes s
          let place := if atEnd then content.length else offset
          set { m with
            files := m.files.insert path (.file (splice content new place) exec)
            channels := m.channels.modify i fun c =>
              { c with channel := .file path (place + new.length) atEnd } }
          return true
        | _ => return true

/-- Writes to a descriptor. -/
def write (fd : Nat) (s : String) : Run Bool := do
  match ← channelOf fd with
  | some i => writeChannel i s
  | none => return false

/-- Reads at most `count` characters, all there are if it is `none`. -/
def readSome (fd : Nat) (count : Option Nat) : Run (Option (List Char)) := do
  match ← channelOf fd with
  | none => return none
  | some i =>
    let m ← get
    match m.channels[i]? with
    | none => return none
    | some c =>
      if !c.readable then return none
      else match c.channel with
        | .null => return some []
        | .sink _ => return none
        | .source rest =>
          let n := count.getD rest.length
          let c := { c with channel := .source (rest.drop n) }
          set { m with channels := m.channels.setIfInBounds i c }
          return some (rest.take n)
        | .file path offset atEnd =>
          match m.files.lookup path with
          | some (.file content _) =>
            let left := content.drop offset
            let taken := left.take (count.getD left.length)
            let c := { c with channel := .file path (offset + taken.length) atEnd }
            set { m with channels := m.channels.setIfInBounds i c }
            return some (taken.map fun b => Char.ofNat b.toNat)
          | _ => return none

/-- Reads all that is left; nothing if the descriptor cannot be read. -/
def readAll (fd : Nat) : Run (Option String) := do
  return (← readSome fd none).map String.ofList

/-- What was written to a sink. -/
def written (i : Nat) : Run String := do
  match (← get).channels[i]? with
  | some ⟨.sink chunks, _, _⟩ => return String.join chunks.reverse
  | _ => return ""

/-! ## Messages -/

/-- Writes a line of its own to the error channel. -/
def complainRaw (s : String) : Run Unit := do
  let _ ← write 2 (s ++ "\n")

/-- Writes a message of the shell, with the script's name and line. -/
def complain (s : String) : Run Unit := do
  let p ← proc
  complainRaw (p.name ++ ": " ++ toString p.line ++ ": " ++ s)

/-- Reports an error that ends the process. -/
def fatal {α : Type} (s : String) : Run α := do
  complain s
  exit 2

/-! ## Variables -/

def lookupVar (name : String) : Run (Option Variable) := return (← proc).vars.lookup name

def value (name : String) : Run (Option String) := return (← lookupVar name).bind (·.value)

def putVariable (name : String) (v : Option Variable) : Run Unit := modifyProc fun p =>
  let rest := p.vars.filter (·.1 ≠ name)
  { p with vars := match v with
    | some v => (name, v) :: rest
    | none => rest }

/-- Gives a variable a value; it stays exported if it was. -/
def assign (name value : String) : Run Unit := do
  let old ← lookupVar name
  match old with
  | some v =>
    if v.readOnly then fatal (name ++ ": is read only")
    else putVariable name (some { v with value := some value })
  | none => putVariable name (some ⟨some value, false, false⟩)

/-- The variables that commands outside the shell are given. -/
def environment : Run (List (String × String)) := do
  return (← proc).vars.filterMap fun (n, v) =>
    if v.exported then v.value.map fun s => (n, s) else none

/-! ## Files -/

/-- What a written path leads to, seen from the process. -/
def statPath (path : String) : Run (Except FileError (Path × FileEntry)) := do
  let m ← get
  return m.files.stat m.proc.cwd (textBytes path)

/-- Where a written path leads, whether or not there is something. -/
def resolvePath (path : String) : Run (Except FileError Path) := do
  let m ← get
  return m.files.resolve m.proc.cwd (textBytes path)

def modifyFiles (f : FileTree → FileTree) : Run Unit :=
  modify fun m => { m with files := f m.files }

/-- Where a command's program is, by the directories of `PATH`. -/
def findProgram (name : String) : Run (Option (Path × FileEntry)) := do
  let dirs := ((← value "PATH").getD "").splitOn ":"
  let m ← get
  return dirs.findSome? fun d =>
    let full := if d = "" then name else d ++ "/" ++ name
    match m.files.stat m.proc.cwd (textBytes full) with
    | .ok (p, .tool n) => some (p, .tool n)
    | .ok (p, .file c true) => some (p, .file c true)
    | _ => none

end Run

end DeltaDebug.Shell
