import DeltaDebug.Shell.Field
import DeltaDebug.Shell.Parser
import DeltaDebug.Shell.Signal
import DeltaDebug.Shell.Tool

/-
  Commands that a shell runs by itself and that run no other commands: they read and set
  variables, arguments, switches, directories, jobs and traps, and point descriptors to channels.
-/

namespace DeltaDebug.Shell

open Run

/-- The commands that belong to the language itself; an error in them ends the script. -/
def specialCommands : List String :=
  [":", ".", "break", "continue", "eval", "exec", "exit", "export", "readonly", "return", "set",
   "shift", "times", "trap", "unset"]

/-- The other commands that a shell runs by itself. -/
def ownCommands : List String :=
  ["true", "false", "echo", "printf", "test", "[", "read", "cd", "pwd", "kill", "wait", "type",
   "command", "umask", "ulimit", "local", "alias", "unalias", "hash", "jobs", "bg", "fg", "getopts"]

/-- How deep functions may call each other. -/
def maxCallDepth : Nat := 1000

/-- A number of decimal digits only. -/
def plainNumber (s : String) : Option Nat :=
  if s ≠ "" ∧ s.toList.all Char.isDigit then
    let n := s.toList.foldl (fun n c => n * 10 + (c.toNat - 48)) 0
    if n < 2147483648 then some n else none
  else none

/-- A number as arguments of commands give it: not negative, of 31 bits, blanks around it and a
plus sign aside. -/
def argumentNumber? (s : String) : Option Nat :=
  match Condition.number s with
  | .ok (.ofNat n) => if n < 2147483648 then some n else none
  | _ => none

/-- A number that a command of the language itself is given. -/
def numberOrFail (command s : String) : Run Nat :=
  match argumentNumber? s with
  | some n => pure n
  | none => fatal (command ++ ": Illegal number: " ++ s)

/-- The letters of the switches that are on. -/
def switchLetters (s : Switches) : String :=
  String.ofList ((if s.unsetIsError then ['u'] else []) ++ (if s.trace then ['x'] else []) ++
    (if s.noGlob then ['f'] else []) ++ (if s.exitOnError then ['e'] else []))

/-- The value of a parameter. -/
def parameter (name : String) : Run (Option String) := do
  let p ← proc
  match name with
  | "?" => return some (toString p.status)
  | "$" => return some (toString p.pid)
  | "!" => return p.lastJob.map toString
  | "#" => return some (toString p.args.length)
  | "-" => return some (switchLetters p.switches)
  | "0" => return some p.name
  | "@" | "*" => return if p.args = [] then none else some (" ".intercalate p.args)
  | _ =>
    match plainNumber name with
    | some n => return p.args[n - 1]?
    | none => value name

/-- What separates fields. -/
def separators : Run (List Char) := return ((← value "IFS").getD " \t\n").toList

/-- The text without the line ends at its end, and without NUL characters. -/
def substituted (s : String) : String :=
  let cs := s.toList.filter (· ≠ '\x00')
  String.ofList (cs.reverse.dropWhile (· = '\n')).reverse

/-- The part of a value that a pattern does not take away. -/
def trimmed (op : ParamOp) (pattern : List Glyph) (text : List Char) : List Char :=
  let sizes := List.range (text.length + 1)
  let pick (sizes : List Nat) (part : Nat → List Char) : Option Nat :=
    sizes.find? fun n => globMatches pattern (part n)
  match op with
  | .trimStart longest =>
    match pick (if longest then sizes.reverse else sizes) text.take with
    | some n => text.drop n
    | none => text
  | .trimEnd longest =>
    match pick (if longest then sizes.reverse else sizes) (fun n => text.drop (text.length - n)) with
    | some n => text.take (text.length - n)
    | none => text
  | _ => text

/-- Opens a file for a redirection. -/
def openFile (kind : RedirKind) (path : String) : Run (Except String Nat) := do
  let writes := kind = .output || kind = .append
  let verb := if writes then "cannot create " else "cannot open "
  let fault (e : FileError) : Except String Nat :=
    let why := match e with
      | .notFound | .notADirectory => if writes then "Directory nonexistent" else "No such file"
      | e => Tool.cause e
    .error (verb ++ path ++ ": " ++ why)
  let device : Option Nat := match path with
    | "/dev/stdin" => some 0
    | "/dev/stdout" => some 1
    | "/dev/stderr" => some 2
    | _ => none
  match device with
  | some fd =>
    match ← channelOf fd with
    | some i => return .ok i
    | none => return fault .notFound
  | none =>
    match ← resolvePath path with
    | .error e => return fault e
    | .ok p =>
      let m ← get
      let file (offset : Nat) : Run (Except String Nat) := do
        return .ok (← openChannel ⟨.file p offset (kind = .append), !writes, kind ≠ .input⟩)
      match m.files.lookup p with
      | some .directory =>
        if kind = .input then return .ok (← openChannel ⟨.source [], false, false⟩)
        else return fault .isADirectory
      | some (.tool _) => return .ok (← openChannel ⟨.null, !writes, kind ≠ .input⟩)
      | some (.file _ exec) =>
        if kind = .output then modifyFiles (·.insert p (.file [] exec))
        file 0
      | none =>
        if kind = .input then return fault .notFound
        else
          modifyFiles (·.insert p (.file [] false))
          file 0

/-- What a descriptor is to name. -/
inductive Aim where
  | closed
  | copy (fd : Nat)
  | text (s : String)
  | file (kind : RedirKind) (path : String)

/-- Points descriptors one after the other; stops at the first that cannot be. -/
def aimAll : List (Nat × Aim) → Run Bool
  | [] => return true
  | (fd, aim) :: rest => do
    let found : Except String (Option Nat) ← match aim with
      | .closed => pure (.ok none)
      | .text s => do
        let i ← openChannel ⟨.source s.toList, true, false⟩
        pure (.ok (some i))
      | .copy n => do
        match ← channelOf n with
        | some i => pure (.ok (some i))
        | none => pure (.error (toString n ++ ": Bad file descriptor"))
      | .file kind path => do
        match ← openFile kind path with
        | .ok i => pure (.ok (some i))
        | .error e => pure (.error e)
    match found with
    | .ok channel =>
      setFd fd channel
      aimAll rest
    | .error e =>
      complain e
      return false

/-- What is left to read, without reading it. -/
def available (fd : Nat) : Run (Option (List Char)) := do
  match ← channelOf fd with
  | none => return none
  | some i =>
    let m ← get
    match m.channels[i]? with
    | some ⟨.source rest, true, _⟩ => return some rest
    | some ⟨.null, true, _⟩ => return some []
    | some ⟨.file path offset _, true, _⟩ =>
      match m.files.lookup path with
      | some (.file content _) => return some ((content.drop offset).map fun b => Char.ofNat b.toNat)
      | _ => return none
    | _ => return none

/-- A line for `read`: its characters, how many were taken, and whether its end was there. NUL
characters are dropped; a backslash makes the next character plain unless `raw`. -/
def takeLine (raw : Bool) : List Char → (acc : List Glyph) → (taken : Nat) → List Glyph × Nat × Bool
  | [], acc, n => (acc.reverse, n, false)
  | '\n' :: _, acc, n => (acc.reverse, n + 1, true)
  | '\\' :: c :: rest, acc, n =>
    if raw then takeLine raw (c :: rest) (⟨'\\', true⟩ :: acc) (n + 1)
    else if c = '\n' then takeLine raw rest acc (n + 2)
    else takeLine raw rest (⟨c, false⟩ :: acc) (n + 2)
  | c :: rest, acc, n =>
    if c = '\x00' ∨ (c = '\\' ∧ !raw) then takeLine raw rest acc (n + 1)
    else takeLine raw rest (⟨c, true⟩ :: acc) (n + 1)

/-- The command `read`. -/
def readCommand (args : List String) : Run Nat := do
  let (opts, names) := Tool.leadingOptions "p" args
  match names with
  | [] =>
    complain "read: arg count"
    return 2
  | names =>
    match names.find? fun n => !isName (n.toList.takeWhile (· ≠ '=')) with
    | some n =>
      complain ("read: " ++ n ++ ": bad variable name")
      return 2
    | none =>
      match ← available 0 with
      | none =>
        for n in names do assign n ""
        return 1
      | some cs =>
        let (line, count, ended) := takeLine (Tool.has opts 'r') cs [] 0
        let _ ← readSome 0 (some count)
        let fields := Field.distribute (← separators) names.length line
        for (n, i) in names.zipIdx do assign n (fields.getD i "")
        return if ended then 0 else 1

/-- Marks variables, after giving them values. -/
def markCommand (command : String) (args : List String) (mark : Variable → Variable) : Run Nat := do
  let names := args.filter (· ≠ "-p")
  for a in names do
    let name := a.toList.takeWhile (· ≠ '=')
    if !isName name then fatal (command ++ ": " ++ a.takeWhile (· ≠ '=') ++ ": bad variable name")
    let key := String.ofList name
    if name.length < a.length then assign key (String.ofList (a.toList.drop (name.length + 1)))
    let old := (← lookupVar key).getD ⟨none, false, false⟩
    putVariable key (some (mark old))
  return 0

/-- The command `unset`. -/
def unsetCommand (args : List String) : Run Nat := do
  let (opts, names) := Tool.leadingOptions "" args
  for name in names do
    if Tool.has opts 'f' then
      modifyProc fun p => { p with functions := p.functions.filter (·.1 ≠ name) }
    else if !isName (name.toList.takeWhile (· ≠ '=')) then
      fatal ("unset: " ++ name ++ ": bad variable name")
    else match ← lookupVar name with
      | some v => if v.readOnly then fatal ("unset: " ++ name ++ ": is read only") else putVariable name none
      | none => pure ()
  return 0

/-- Turns a switch on or off. -/
def setSwitch (c : Char) (on : Bool) (s : Switches) : Option Switches :=
  match c with
  | 'e' => some { s with exitOnError := on }
  | 'u' => some { s with unsetIsError := on }
  | 'f' => some { s with noGlob := on }
  | 'x' => some { s with trace := on }
  | c => if "aCbmnvIiEV".toList.contains c then some s else none

/-- The letter of a switch by its long name. -/
def switchName (name : String) : Option Char :=
  match name with
  | "errexit" => some 'e'
  | "nounset" => some 'u'
  | "noglob" => some 'f'
  | "xtrace" => some 'x'
  | "allexport" | "noclobber" | "notify" | "monitor" | "noexec" | "verbose" => some 'a'
  | _ => none

/-- The command `set`: switches first, then the new arguments, if there are any. -/
def setCommand : (fuel : Nat) → List String → Run Nat
  | 0, _ => pure 0
  | fuel + 1, args => do
    match args with
    | [] => return 0
    | "--" :: rest =>
      modifyProc fun p => { p with args := rest }
      return 0
    | a :: rest =>
      match a.toList with
      | sign :: letters =>
        if (sign = '-' ∨ sign = '+') ∧ letters ≠ [] then
          let on := sign = '-'
          if letters = ['o'] then
            match rest with
            | name :: rest =>
              match switchName name with
              | some c =>
                modifyProc fun p => { p with switches := (setSwitch c on p.switches).getD p.switches }
                setCommand fuel rest
              | none => fatal ("set: Illegal option -o " ++ name)
            | [] => return 0
          else
            for c in letters do
              match setSwitch c on (← proc).switches with
              | some s => modifyProc fun p => { p with switches := s }
              | none => fatal ("set: Illegal option " ++ String.ofList [sign, c])
            setCommand fuel rest
        else
          modifyProc fun p => { p with args := a :: rest }
          return 0
      | [] =>
        modifyProc fun p => { p with args := a :: rest }
        return 0

def workingText (p : Path) : String := "/" ++ "/".intercalate (p.map bytesText)

/-- The command `cd`. -/
def cdCommand (args : List String) : Run Nat := do
  let args := args.filter fun a => a ≠ "-P" ∧ a ≠ "-L" ∧ a ≠ "--"
  let old := workingText (← proc).cwd
  let target ← match args with
    | [] => pure ((← value "HOME").getD "")
    | "-" :: _ => pure ((← value "OLDPWD").getD old)
    | a :: _ => pure a
  if target = "" then return 0
  match ← statPath target with
  | .ok (p, .directory) =>
    modifyProc fun q => { q with cwd := p }
    assign "OLDPWD" old
    assign "PWD" (workingText p)
    if args.head? = some "-" then
      let _ ← write 1 (workingText p ++ "\n")
    return 0
  | _ =>
    complain ("cd: can't cd to " ++ target)
    return 2

/-- The command `wait`. -/
def waitCommand (args : List String) : Run Nat := do
  let await (j : Job) : Run Unit := do
    match j.finish with
    | some t => sleepUntil t
    | none =>
      match (← get).deadline with
      | some d => sleepUntil d
      | none => pure ()
      throw .stopped
  match args with
  | [] =>
    for j in (← proc).jobs do await j
    modifyProc fun p => { p with jobs := [] }
    return 0
  | a :: _ =>
    match argumentNumber? a with
    | none =>
      complain ("wait: Illegal number: " ++ a)
      return 2
    | some n =>
      match (← proc).jobs.find? (·.pid = n) with
      | some j =>
        await j
        return j.status
      | none => return 127

/-- The command `trap`. -/
def trapCommand (args : List String) : Run Nat := do
  let args := match args with
    | "--" :: rest => rest
    | args => args
  let change (action : Option String) (signals : List String) : Run Nat := do
    for s in signals do
      match Signal.number? s with
      | none =>
        complainRaw ("trap: " ++ s ++ ": bad trap")
        return 1
      | some n =>
        modifyProc fun p =>
          let rest := p.traps.filter (·.1 ≠ toString n)
          { p with traps := match action with
            | some a => (toString n, a) :: rest
            | none => rest }
    return 0
  if let some a := args.head? then
    if a.startsWith "-" ∧ a ≠ "-" then
      fatal ("trap: Illegal option " ++ String.ofList (a.toList.take 2))
  match args with
  | [] => return 0
  | [s] => change none [s]
  | "-" :: signals => change none signals
  | action :: signals =>
    if (plainNumber action).isSome then change none args else change (some action) signals

/-- The path of a program, or what else a command name stands for. -/
def describe (name : String) : Run (Option String) := do
  let p ← proc
  if (p.functions.lookup name).isSome then return some name
  else if specialCommands.contains name || ownCommands.contains name || reserved.contains name then
    return some name
  else if name.contains '/' then
    match ← statPath name with
    | .ok _ => return some name
    | .error _ => return none
  else
    match ← findProgram name with
    | some (path, _) => return some (workingText path)
    | none => return none

end DeltaDebug.Shell
