import DeltaDebug.Shell.Builtin

/-
  Running scripts. A script is read and run line by line; its commands change the machine and set
  the status. Commands that run in a copy of the process leave nothing behind but what they did to
  the files, the channels and the clock.
-/

namespace DeltaDebug.Shell

open Run

/-- Runs an action and then another, whether or not the first one was left early. -/
def andFinally {α : Type} (body : Run α) (after : Run Unit) : Run α := do
  let a ← try body catch f => do
    after
    throw f
  after
  return a

/-- Runs commands whose status is looked at. -/
def withTested (body : Run Unit) : Run Unit := do
  let old := (← proc).tested
  modifyProc fun p => { p with tested := true }
  andFinally body (modifyProc fun p => { p with tested := old })

/-- Runs a part of the script in a copy of the process. `finish` runs at its end. -/
def inCopy (body finish : Run Unit) : Run Nat := do
  let saved ← proc
  modifyProc fun p => { p with
    isCopy := true
    traps := p.traps.filter (·.2 = "")
    jobs := []
    loopDepth := 0 }
  let restore : Run Unit := modifyProc fun _ => saved
  let absorb (f : Flow) : Run Unit :=
    match f with
    | .killed pid s => throw (.killed pid s)
    | .stopped => throw .stopped
    | _ => pure ()
  let whole : Run Unit := do
    try body catch f => absorb f
    try finish catch f => absorb f
  try whole catch f => do
    restore
    throw f
  let status := (← proc).status
  restore
  return status

/-- Lets a command run beside the script: it happens now, and its end is kept for later. -/
def beside (body : Run Nat) : Run Unit := do
  let m ← get
  let start := m.clock
  let budget := m.budget
  let pid := m.nextPid
  set { m with nextPid := pid + 1, budget := budget / 2 }
  let job ← try
      let status ← body
      pure (Job.mk pid (some (← get).clock) status)
    catch f => match f with
      | .stopped => pure (Job.mk pid none 137)
      | f => throw f
  modify fun m => { m with clock := start, budget := budget - budget / 2 }
  modifyProc fun p => { p with jobs := job :: p.jobs, lastJob := some pid, status := 0 }

/-- A tilde at the start of a word stands for the home directory. -/
def tilde (pieces : List Piece) : Run (List Piece) := do
  match pieces with
  | .fixed s false :: rest =>
    if (s = "~" ∧ rest.isEmpty) ∨ s.startsWith "~/" then
      match ← value "HOME" with
      | some home => return .fixed (home ++ String.ofList (s.toList.drop 1)) true :: rest
      | none => return pieces
    else return pieces
  | _ => return pieces

/-- Ends the script if a command failed whose status nobody looks at. -/
def checkFailure : Run Unit := do
  let p ← proc
  if p.switches.exitOnError && p.status ≠ 0 && !p.tested then throw .exited

/-- Runs something whose status is looked at, and keeps what it returns. -/
def tested (body : Run Bool) : Run Bool := do
  let old := (← proc).tested
  modifyProc fun p => { p with tested := true }
  andFinally body (modifyProc fun p => { p with tested := old })

/-- A file to be read as a script, by the directories of `PATH`. -/
def findReadable (name : String) : Run (Option (Path × FileEntry)) := do
  let dirs := ((← value "PATH").getD "").splitOn ":"
  let m ← get
  return dirs.findSome? fun d =>
    match m.files.stat m.proc.cwd (textBytes (if d = "" then name else d ++ "/" ++ name)) with
    | .ok (p, .file c e) => some (p, .file c e)
    | _ => none

/-- Where a command's program is, or the status and the reason if it cannot be run. -/
def locate (name : String) : Run (Except (Nat × String) (Path × FileEntry)) := do
  if name.contains '/' then
    match ← statPath name with
    | .ok (p, .tool n) =>
      if n = "/dev/null" then return .error (126, "Permission denied") else return .ok (p, .tool n)
    | .ok (p, .file c true) => return .ok (p, .file c true)
    | .ok _ => return .error (126, "Permission denied")
    | .error _ => return .error (127, "not found")
  else if name = "" then return .error (127, "Permission denied")
  else
    match ← findProgram name with
    | some x => return .ok x
    | none => return .error (127, "not found")

/-- The switches in front of a shell's operands. -/
def startSwitches : (fuel : Nat) → (asText fromInput : Bool) → List String →
    Run (Bool × Bool × List String)
  | 0, asText, fromInput, args => return (asText, fromInput, args)
  | fuel + 1, asText, fromInput, args => do
    match args with
    | "--" :: rest => return (asText, fromInput, rest)
    | "-" :: rest => return (asText, fromInput, rest)
    | a :: rest =>
      match a.toList with
      | sign :: letters =>
        if (sign = '-' ∨ sign = '+') ∧ letters ≠ [] then
          let mut asText := asText
          let mut fromInput := fromInput
          for c in letters do
            if c = 'c' then asText := true
            else if c = 's' then fromInput := true
            else match setSwitch c (sign = '-') (← proc).switches with
              | some s => modifyProc fun p => { p with switches := s }
              | none => fatal ("Illegal option " ++ String.ofList [sign, c])
          startSwitches fuel asText fromInput rest
        else return (asText, fromInput, args)
      | [] => return (asText, fromInput, args)
    | [] => return (asText, fromInput, [])

/-- Whether a word takes the output of a command. -/
def hasCommand (w : Word) : Bool :=
  w.any fun
    | .command _ _ => true
    | _ => false

mutual

/-- The pieces of an expanded word. -/
def expand : (fuel : Nat) → Word → Run (List Piece)
  | 0, _ => throw .stopped
  | fuel + 1, parts => do
    let mut out := []
    for part in parts do
      out := out ++ (← expandPart fuel part)
    return out

/-- The pieces of one part. -/
def expandPart : (fuel : Nat) → Part → Run (List Piece)
  | 0, _ => throw .stopped
  | fuel + 1, part => do
    let plain (s : String) (quoted : Bool) : List Piece :=
      if quoted then [.fixed s true] else [.value s]
    match part with
    | .lit s quoted => return [.fixed s quoted]
    | .command body quoted =>
      let sink ← openChannel ⟨.sink [], false, true⟩
      let status ← inCopy (do
        setFd 1 (some sink)
        exec fuel body) (atExit fuel)
      setStatus status
      return plain (substituted (← written sink)) quoted
    | .arith expr quoted =>
      let source := Field.joined (← expand fuel expr)
      let p ← proc
      let lookup (n : String) : Option String := (p.vars.lookup n).bind (·.value)
      let result : Except ArithError (Int × List (String × Int)) := match Arith.parse source with
        | .error e => .error e
        | .ok e => Arith.eval lookup e []
      match result with
      | .error e => fatal (e.message source)
      | .ok (n, writes) =>
        for (name, v) in writes.reverse do assign name (toString v)
        return plain (toString n) quoted
    | .param name op colon word quoted =>
      let p ← proc
      let current ← parameter name
      let present := match current with
        | none => false
        | some v => !(colon && v = "")
      let all : List Piece :=
        if name = "@" ∧ quoted then (p.args.map fun a => Piece.fixed a true).intersperse .hardCut
        else if quoted then
          let joint := match (p.vars.lookup "IFS").bind (·.value) with
            | none => " "
            | some s => String.ofList (s.toList.take 1)
          [.fixed (joint.intercalate p.args) true]
        else (p.args.map Piece.value).intersperse .softCut
      let here : List Piece :=
        if name = "@" ∨ name = "*" then all
        else plain (current.getD "") quoted
      let strict : Run Unit := do
        if current.isNone && p.switches.unsetIsError && name ≠ "@" && name ≠ "*" then
          fatal (name ++ ": parameter not set")
      match op with
      | none =>
        strict
        return here
      | some .invalid => fatal "Bad substitution"
      | some .length =>
        strict
        let n := if name = "@" ∨ name = "*" then p.args.length else (current.getD "").length
        return plain (toString n) quoted
      | some .default => if present then return here else unquoted fuel word quoted
      | some .alternative =>
        if present then unquoted fuel word quoted else return plain "" quoted
      | some .assign =>
        if present then return here
        else
          let v := Field.joined (← expand fuel word)
          if isName name.toList then assign name v
          else fatal (name ++ ": bad variable name")
          return plain v quoted
      | some .demand =>
        if present then return here
        else
          let message := Field.joined (← expand fuel word)
          fatal (name ++ ": " ++ if message = "" then "parameter not set" else message)
      | some op =>
        strict
        let pattern := Field.glyphs (← expand fuel word)
        return plain (String.ofList (trimmed op pattern (current.getD "").toList)) quoted

/-- The word that stands in for a value; outside quotes it is split like a value. -/
def unquoted : (fuel : Nat) → Word → (quoted : Bool) → Run (List Piece)
  | 0, _, _ => throw .stopped
  | fuel + 1, word, quoted => do
    let pieces ← expand fuel word
    if quoted then return if pieces.isEmpty then [.fixed "" true] else pieces
    else return pieces.map fun
      | .fixed s false => .value s
      | p => p

/-- The fields of words. -/
def fields : (fuel : Nat) → List Word → Run (List String)
  | 0, _ => throw .stopped
  | fuel + 1, words => do
    let mut out := []
    for word in words do
      let pieces ← expand fuel word
      let pieces ← tilde pieces
      let seps ← separators
      let split := Field.split seps pieces
      let m ← get
      for f in split do
        out := out ++ (if m.proc.switches.noGlob then [Field.text f]
          else Field.expandNames m.files m.proc.cwd f)
    return out

/-- The text of a word that is not split. -/
def single : (fuel : Nat) → Word → Run String
  | 0, _ => throw .stopped
  | fuel + 1, word => do
    return Field.joined (← tilde (← expand fuel word))

/-- What redirections come to: descriptors with what they are to name. -/
def planRedirs : (fuel : Nat) → List Redir → Run (List (Nat × Aim))
  | 0, _ => throw .stopped
  | fuel + 1, redirs => do
    match redirs with
    | [] => return []
    | .hereDoc fd id :: rest =>
      let text ← single fuel (((← proc).hereDocs.lookup id).getD [])
      return (fd, .text text) :: (← planRedirs fuel rest)
    | .mk fd kind word :: rest =>
      let target ← single fuel word
      let aim ← match kind with
        | .dup =>
          if target = "-" then pure Aim.closed
          else match if target.length = 1 then plainNumber target else none with
            | none => fatal "Syntax error: Bad fd number"
            | some n => pure (Aim.copy n)
        | kind => pure (Aim.file kind target)
      return (fd, aim) :: (← planRedirs fuel rest)

/-- Points descriptors as redirections say; an error is reported and told. -/
def redirect : (fuel : Nat) → List Redir → Run Bool
  | 0, _ => throw .stopped
  | fuel + 1, redirs => do
    aimAll (← planRedirs fuel redirs)

/-- Runs a command with redirections that end with it. -/
def withRedirs : (fuel : Nat) → List Redir → Run Unit → Run Unit
  | 0, _, _ => throw .stopped
  | fuel + 1, redirs, body => do
    if redirs.isEmpty then body
    else
      let saved := (← proc).fds
      andFinally (do
        if ← redirect fuel redirs then body else setStatus 2)
        (modifyProc fun p => { p with fds := saved })

/-- Runs a command. -/
def exec : (fuel : Nat) → Command → Run Unit
  | 0, _ => throw .stopped
  | fuel + 1, c => do
    charge
    match c with
    | .skip => setStatus 0
    | .simple assigns words redirs line =>
      modifyProc fun p => { p with line := line }
      simple fuel assigns words redirs
      checkFailure
    | .seq a b =>
      exec fuel a
      exec fuel b
    | .andThen a b =>
      withTested (exec fuel a)
      if (← proc).status = 0 then exec fuel b
    | .orElse a b =>
      withTested (exec fuel a)
      if (← proc).status ≠ 0 then exec fuel b
    | .pipeline negated stages =>
      match stages with
      | [only] => if negated then withTested (exec fuel only) else exec fuel only
      | stages => pipe fuel stages
      if negated then setStatus (if (← proc).status = 0 then 1 else 0) else checkFailure
    | .background body =>
      beside (inCopy (do
        setFd 0 (some (← openChannel ⟨.null, true, false⟩))
        exec fuel body) (atExit fuel))
    | .subshell body redirs =>
      withRedirs fuel redirs do
        let status ← inCopy (exec fuel body) (atExit fuel)
        setStatus status
      checkFailure
    | .group body redirs => withRedirs fuel redirs (exec fuel body)
    | .cond test thenBody elseBody redirs =>
      withRedirs fuel redirs do
        withTested (exec fuel test)
        if (← proc).status = 0 then exec fuel thenBody
        else match elseBody with
          | some e => exec fuel e
          | none => setStatus 0
    | .loop stopOnSuccess test body redirs =>
      withRedirs fuel redirs do
        modifyProc fun p => { p with loopDepth := p.loopDepth + 1 }
        andFinally (loopOn fuel stopOnSuccess test body 0)
          (modifyProc fun p => { p with loopDepth := p.loopDepth - 1 })
    | .forEach name words body redirs =>
      withRedirs fuel redirs do
        let items ← match words with
          | some ws => fields fuel ws
          | none => pure (← proc).args
        modifyProc fun p => { p with loopDepth := p.loopDepth + 1 }
        setStatus 0
        andFinally (forItems fuel name items body)
          (modifyProc fun p => { p with loopDepth := p.loopDepth - 1 })
    | .case subject arms redirs =>
      withRedirs fuel redirs do
        let text ← single fuel subject
        chooseArm fuel text.toList arms
    | .function name body =>
      modifyProc fun p =>
        { p with functions := (name, body) :: p.functions.filter (·.1 ≠ name), status := 0 }

/-- Runs the body of a loop once; tells whether the loop goes on. -/
def turn : (fuel : Nat) → Command → Run Bool
  | 0, _ => throw .stopped
  | fuel + 1, body =>
    try
      exec fuel body
      return true
    catch f => match f with
      | .breakLoop n => if n ≤ 1 then return false else throw (.breakLoop (n - 1))
      | .nextTurn n => if n ≤ 1 then return true else throw (.nextTurn (n - 1))
      | f => throw f

/-- A loop with a test; `status` is that of its last turn. -/
def loopOn : (fuel : Nat) → (stopOnSuccess : Bool) → Command → Command → (status : Nat) → Run Unit
  | 0, _, _, _, _ => throw .stopped
  | fuel + 1, stopOnSuccess, test, body, status => do
    let goesOn ← tested (turn fuel test)
    if !goesOn then return
    if ((← proc).status = 0) = stopOnSuccess then setStatus status
    else
      let more ← turn fuel body
      if more then loopOn fuel stopOnSuccess test body (← proc).status

/-- A loop over words. -/
def forItems : (fuel : Nat) → String → List String → Command → Run Unit
  | 0, _, _, _ => throw .stopped
  | fuel + 1, name, items, body => do
    match items with
    | [] => return
    | item :: rest =>
      assign name item
      let more ← turn fuel body
      if more then forItems fuel name rest body

/-- Runs the first arm with a pattern for the text. -/
def chooseArm : (fuel : Nat) → List Char → List (List Word × Command) → Run Unit
  | 0, _, _ => throw .stopped
  | fuel + 1, text, arms => do
    match arms with
    | [] => setStatus 0
    | (patterns, body) :: rest =>
      if ← anyPattern fuel text patterns then exec fuel body
      else chooseArm fuel text rest

def anyPattern : (fuel : Nat) → List Char → List Word → Run Bool
  | 0, _, _ => throw .stopped
  | fuel + 1, text, patterns => do
    match patterns with
    | [] => return false
    | w :: rest =>
      let pattern := Field.glyphs (← tilde (← expand fuel w))
      if globMatches pattern text then return true else anyPattern fuel text rest

/-- Commands whose outputs feed each other. All of them start at one time, and the last to end
ends the pipeline. -/
def pipe : (fuel : Nat) → List Command → Run Unit
  | 0, _ => throw .stopped
  | fuel + 1, stages => do
    let start := (← get).clock
    let mut finish := start
    let mut input : Option String := none
    let mut status := 0
    let mut halted := false
    let count := stages.length
    for (stage, i) in stages.zipIdx do
      modify fun m => { m with clock := start }
      let source ← match input with
        | some text => some <$> openChannel ⟨.source text.toList, true, false⟩
        | none => pure none
      let sink ← openChannel ⟨.sink [], false, true⟩
      let body : Run Unit := do
        if let some s := source then setFd 0 (some s)
        if i + 1 < count then setFd 1 (some sink)
        exec fuel stage
      let result ← try
          some <$> inCopy body (atExit fuel)
        catch f => match f with
          | .stopped => pure none
          | f => throw f
      match result with
      | some s => status := s
      | none => halted := true
      finish := max finish (← get).clock
      input := some (← written sink)
    modify fun m => { m with clock := finish }
    if halted then throw .stopped
    setStatus status

/-- A simple command: assignments, a name with arguments, and redirections. -/
def simple : (fuel : Nat) → List (String × Word) → List Word → List Redir → Run Unit
  | 0, _, _, _ => throw .stopped
  | fuel + 1, assigns, words, redirs => do
    let args ← fields fuel words
    let evalAssigns : Run (List (String × String)) := assigns.mapM fun (n, w) => do
      let v ← single fuel w
      return (n, v)
    match args with
    | [] =>
      -- the status is that of the last command that was substituted, if there is one
      if !(words ++ assigns.map (·.2)).any hasCommand then setStatus 0
      let saved := (← proc).fds
      let good ← redirect fuel redirs
      modifyProc fun p => { p with fds := saved }
      if !good then setStatus 2
      else
        for (n, w) in assigns do
          let v ← single fuel w
          assign n v
    | name :: rest =>
      if (← proc).switches.trace then complainRaw ("+ " ++ " ".intercalate args)
      let special := specialCommands.contains name
      let permanent := name = "exec"
      let saved := (← proc).fds
      let good ← redirect fuel redirs
      let restore : Run Unit :=
        if permanent then pure () else modifyProc fun p => { p with fds := saved }
      if !good then
        modifyProc fun p => { p with fds := saved }
        if special then exit 2 else setStatus 2
      else
        let values ← evalAssigns
        if special then
          for (n, v) in values do assign n v
          andFinally (builtin fuel name rest) restore
        else
          let old := (← proc).vars
          for (n, v) in values do
            assign n v
            modifyProc fun p => { p with vars := p.vars.map fun (k, x) =>
              if k = n then (k, { x with exported := true }) else (k, x) }
          let back : Run Unit := do
            restore
            if !values.isEmpty then
              for (n, _) in values do putVariable n (old.lookup n)
          andFinally (dispatch fuel name rest) back

/-- Runs a function, a command of the shell or a program, whichever the name stands for. -/
def dispatch : (fuel : Nat) → String → List String → Run Unit
  | 0, _, _ => throw .stopped
  | fuel + 1, name, args => do
    match (← proc).functions.lookup name with
    | some body => call fuel body args
    | none =>
      if ownCommands.contains name then builtin fuel name args
      else program fuel name args

/-- Calls a function. -/
def call : (fuel : Nat) → Command → List String → Run Unit
  | 0, _, _ => throw .stopped
  | fuel + 1, body, args => do
    let p ← proc
    if p.callDepth ≥ maxCallDepth then
      fatal ("Maximum function recursion depth (" ++ toString maxCallDepth ++ ") reached")
    modifyProc fun p => { p with
      args := args, callDepth := p.callDepth + 1, loopDepth := 0, locals := [] :: p.locals }
    let after : Run Unit := do
      for (n, v) in (← proc).locals.headD [] do putVariable n v
      modifyProc fun q => { q with
        args := p.args, callDepth := p.callDepth, loopDepth := p.loopDepth, locals := p.locals }
    andFinally (try exec fuel body catch f => match f with
      | .returned => pure ()
      | f => throw f) after

/-- Commands that the shell runs by itself. -/
def builtin : (fuel : Nat) → String → List String → Run Unit
  | 0, _, _ => throw .stopped
  | fuel + 1, name, args => do
    match name with
    | ":" | "true" => setStatus 0
    | "false" => setStatus 1
    | "echo" =>
      if ← write 1 (Printf.echo args) then setStatus 0
      else
        complain "echo: echo: I/O error"
        setStatus 1
    | "printf" => setStatus (← Tool.printf args)
    | "test" | "[" => setStatus (← Tool.test name args)
    | "read" => setStatus (← readCommand args)
    | "cd" => setStatus (← cdCommand args)
    | "pwd" =>
      let _ ← write 1 (workingText (← proc).cwd ++ "\n")
      setStatus 0
    | "exit" =>
      match args with
      | [] => throw .exited
      | a :: _ =>
        let n ← numberOrFail "exit" a
        exit (n % 256)
    | "return" =>
      if let a :: _ := args then
        let n ← numberOrFail "return" a
        setStatus n
      throw .returned
    | "break" | "continue" =>
      let n ← match args with
        | a :: _ => numberOrFail name a
        | [] => pure 1
      if n = 0 then fatal (name ++ ": Illegal number: 0")
      let depth := (← proc).loopDepth
      setStatus 0
      if depth > 0 then
        throw (if name = "break" then .breakLoop (min n depth) else .nextTurn (min n depth))
    | "export" => setStatus (← markCommand name args fun v => { v with exported := true })
    | "readonly" => setStatus (← markCommand name args fun v => { v with readOnly := true })
    | "unset" => setStatus (← unsetCommand args)
    | "set" => setStatus (← setCommand (args.length + 1) args)
    | "shift" =>
      let n ← match args with
        | a :: _ => numberOrFail name a
        | [] => pure 1
      let p ← proc
      if n > p.args.length then fatal "shift: can't shift that many"
      modifyProc fun p => { p with args := p.args.drop n, status := 0 }
    | "eval" =>
      setStatus 0
      runText fuel "eval: " (" ".intercalate args)
    | "." =>
      match args with
      | [] => setStatus 0
      | path :: rest =>
        let found ← if path.contains '/' then statPath path else do
          match ← findReadable path with
          | some x => pure (.ok x)
          | none => pure (.error .notFound)
        match found with
        | .ok (_, .file content _) =>
          let saved := (← proc).args
          if rest ≠ [] then modifyProc fun p => { p with args := rest }
          setStatus 0
          try runText fuel "" (bytesText (content.filter (· ≠ 0))) catch f => match f with
            | .returned => pure ()
            | f => throw f
          if rest ≠ [] then modifyProc fun p => { p with args := saved }
        | .ok _ => setStatus 0
        | .error _ =>
          if path.contains '/' then fatal (".: cannot open " ++ path ++ ": No such file")
          else fatal (".: " ++ path ++ ": not found")
    | "exec" =>
      match args with
      | [] => setStatus 0
      | prog :: rest =>
        match ← locate prog with
        | .error (status, why) =>
          complain ("exec: " ++ prog ++ ": " ++ why)
          exit status
        | .ok (path, entry) =>
          let env ← environment
          modifyProc fun p => { p with traps := p.traps.filter (·.2 = ""), functions := [] }
          let status ← runEntry fuel path entry prog rest env
          modifyProc fun p => { p with traps := [] }
          exit status
    | "trap" => setStatus (← trapCommand args)
    | "wait" => setStatus (← waitCommand args)
    | "kill" => killCommand fuel args
    | "command" =>
      match args with
      | "-v" :: n :: _ | "-V" :: n :: _ =>
        match ← describe n with
        | some s =>
          let _ ← write 1 (s ++ "\n")
          setStatus 0
        | none => setStatus 127
      | n :: rest =>
        if specialCommands.contains n || ownCommands.contains n then builtin fuel n rest
        else program fuel n rest
      | [] => setStatus 0
    | "type" =>
      setStatus 0
      for n in args do
        match ← describe n with
        | some s =>
          let _ ← write 1 (n ++ " is " ++ s ++ "\n")
        | none =>
          let _ ← write 1 (n ++ ": not found\n")
          setStatus 127
    | "local" =>
      if (← proc).callDepth = 0 then fatal "local: not in a function"
      for a in args do
        let key := String.ofList (a.toList.takeWhile (· ≠ '='))
        let old ← lookupVar key
        modifyProc fun p => { p with locals := match p.locals with
          | top :: rest =>
            (if (top.lookup key).isSome then top else (key, old) :: top) :: rest
          | [] => [] }
        if key.length < a.length then
          assign key (String.ofList (a.toList.drop (key.length + 1)))
      setStatus 0
    | "alias" => setStatus (if args = [] then 0 else 1)
    | "getopts" => setStatus 2
    | _ => setStatus 0

/-- The command `kill`. -/
def killCommand : (fuel : Nat) → List String → Run Unit
  | 0, _ => throw .stopped
  | fuel + 1, args => do
    let usage : Run Unit := do
      complain ("kill: Usage: kill [-s sigspec | -signum | -sigspec] [pid | job]... or\n" ++
        "kill -l [exitstatus]")
      setStatus 2
    match args with
    | "-l" :: _ =>
      let _ ← write 1 (Tool.unlines ("0" :: Signal.names))
      setStatus 0
    | [] => usage
    | first :: rest =>
      let (signal, targets) ← match first, rest with
        | "-s", s :: more =>
          match Signal.number? s with
          | some n => pure (some n, more)
          | none =>
            complain ("kill: invalid signal number or name: " ++ s)
            pure (none, more)
        | "--", more => pure (some 15, more)
        | _, _ =>
          if first.startsWith "-" then
            let text := String.ofList (first.toList.drop 1)
            match Signal.number? text with
            | some n => pure (some n, if rest.head? = some "--" then rest.drop 1 else rest)
            | none =>
              let named := String.ofList (text.toList.drop 1)
              if text.startsWith "s" ∧ (Signal.number? named).isSome then
                pure (Signal.number? named, rest)
              else
                complain ("kill: Illegal option -" ++ String.ofList (text.toList.take 1))
                pure (none, rest)
          else pure (some 15, args)
      match signal with
      | none => setStatus 2
      | some n =>
        if targets = [] then usage
        else
          setStatus 0
          killAll fuel n targets

def killAll : (fuel : Nat) → (signal : Nat) → List String → Run Unit
  | 0, _, _ => throw .stopped
  | fuel + 1, signal, targets => do
    match targets with
    | [] => return
    | t :: rest =>
      let digits := if t.startsWith "-" then String.ofList (t.toList.drop 1) else t
      match argumentNumber? digits with
      | none =>
        if t.startsWith "%" then
          complain ("kill: No such job: " ++ t)
          setStatus 2
        else
          complain ("kill: Illegal number: " ++ t)
          setStatus 2
      | some pid =>
        let p ← proc
        if pid = p.pid ∨ pid = 0 then deliver fuel signal
        else if p.jobs.any (·.pid = pid) then
          let now := (← get).clock
          if signal ≠ 0 then
            modifyProc fun p => { p with jobs := p.jobs.map fun j =>
              if j.pid = pid then
                match j.finish with
                | some f => if now < f then { j with finish := some now, status := 128 + signal } else j
                | none => { j with finish := some now, status := 128 + signal }
              else j }
        else
          complain "kill: No such process\n"
          setStatus 1
        killAll fuel signal rest

/-- Gives the process a signal. -/
def deliver : (fuel : Nat) → (signal : Nat) → Run Unit
  | 0, _ => throw .stopped
  | fuel + 1, signal => do
    let p ← proc
    match if Signal.canTrap signal && signal ≠ 0 then p.traps.lookup (toString signal) else none with
    | some "" => return
    | some action =>
      let status := p.status
      runText fuel "" action
      setStatus status
    | none =>
      match Signal.effect signal with
      | .none => return
      | .stop =>
        if let some d := (← get).deadline then sleepUntil d
        throw .stopped
      | .kill => throw (.killed p.pid signal)

/-- Runs a program as a process of its own. -/
def program : (fuel : Nat) → String → List String → Run Unit
  | 0, _, _ => throw .stopped
  | fuel + 1, name, args => do
    match ← locate name with
    | .error (status, why) =>
      complain (name ++ ": " ++ why)
      setStatus status
    | .ok (path, entry) =>
      let env ← environment
      let saved ← proc
      let m ← get
      set { m with nextPid := m.nextPid + 1 }
      let pid := m.nextPid
      modifyProc fun p => { p with pid := pid, tested := false }
      let result ← try
          let status ← runEntry fuel path entry name args env
          pure (Except.ok status)
        catch f => match f with
          | .killed k s => if k = pid then pure (Except.error s) else throw f
          | f => throw f
      modifyProc fun _ => saved
      match result with
      | .ok status => setStatus status
      | .error signal =>
        if Signal.report signal ≠ "" then complainRaw (Signal.report signal)
        setStatus (128 + signal)

/-- Runs what is at a path, with a name, arguments and variables; returns its status. -/
def runEntry : (fuel : Nat) → Path → FileEntry → String → List String → List (String × String) → Run Nat
  | 0, _, _, _, _, _ => throw .stopped
  | fuel + 1, path, entry, name, args, env => do
    match entry with
    | .directory => return 126
    | .tool "sh" | .tool "dash" => shell fuel name args env
    | .tool "env" =>
      let isSetting (a : String) : Bool := a.contains '=' && !a.startsWith "="
      let settings := args.takeWhile isSetting
      let added := settings.map fun a =>
        (String.ofList (a.toList.takeWhile (· ≠ '=')),
          String.ofList ((a.toList.dropWhile (· ≠ '=')).drop 1))
      let env := env.filter (fun (n, _) => !added.any (·.1 = n)) ++ added
      match args.drop settings.length with
      | [] =>
        let _ ← write 1 (Tool.unlines (env.map fun (n, v) => n ++ "=" ++ v))
        return 0
      | prog :: rest =>
        for (n, v) in added do putVariable n (some ⟨some v, true, false⟩)
        match ← locate prog with
        | .error (status, _) =>
          complainRaw ("env: '" ++ prog ++ "': No such file or directory")
          return status
        | .ok (path, entry) => runEntry fuel path entry prog rest env
    | .tool "kill" =>
      killCommand fuel args
      return (← proc).status
    | .tool n => Tool.run n args
    | .file content _ =>
      let text := bytesText content
      let written := if name.contains '/' then name else workingText path
      if text.startsWith "#!" then
        let line := String.ofList ((text.toList.drop 2).takeWhile (· ≠ '\n'))
        let line := line.trimAscii.toString
        let interpreter := String.ofList (line.toList.takeWhile (!isBlankChar ·))
        let option := (String.ofList (line.toList.drop interpreter.length)).trimAscii.toString
        let extra := if option = "" then [] else [option]
        match ← statPath interpreter with
        | .ok (p, .tool n) => runEntry fuel p (.tool n) interpreter (extra ++ written :: args) env
        | .ok (p, .file c true) =>
          runEntry fuel p (.file c true) interpreter (extra ++ written :: args) env
        | _ =>
          complain (name ++ ": not found")
          return 127
      else shell fuel "sh" (written :: args) env

/-- A shell with its arguments: a script given as text, by the name of its file, or on the input. -/
def shell : (fuel : Nat) → String → List String → List (String × String) → Run Nat
  | 0, _, _, _ => throw .stopped
  | fuel + 1, name, args, env => do
    modifyProc fun p => { p with
      name := name
      args := []
      vars := (env.filter fun (n, _) => isName n.toList).map fun (n, v) => (n, ⟨some v, true, false⟩)
      functions := []
      switches := {}
      status := 0
      hereDocs := []
      traps := p.traps.filter (·.2 = "")
      jobs := []
      lastJob := none
      loopDepth := 0
      callDepth := 0
      locals := []
      tested := false
      line := 0
      isCopy := false }
    putVariable "IFS" (some ⟨some " \t\n", false, false⟩)
    putVariable "PWD" (some ⟨some (workingText (← proc).cwd), false, false⟩)
    if (← value "PATH").isNone then
      putVariable "PATH" (some ⟨some (":".intercalate FileTree.toolDirectories), false, false⟩)
    let body : Run Unit := do
      let (asText, fromInput, operands) ← startSwitches (args.length + 1) false false args
      if asText then
        match operands with
        | [] => fatal "-c requires an argument"
        | text :: rest =>
          modifyProc fun p => { p with
            name := rest.headD name, args := rest.drop 1, line := 1 }
          runText fuel "" text
      else
        match fromInput, operands with
        | false, file :: rest =>
          let found ← if file.contains '/' then statPath file else do
            match ← statPath file with
            | .ok x => pure (.ok x)
            | .error _ =>
              match ← findReadable file with
              | some x => pure (.ok x)
              | none => pure (.error .notFound)
          match found with
          | .ok (_, .file content _) =>
            modifyProc fun p => { p with name := file, args := rest, line := 1 }
            runText fuel "" (bytesText (content.filter (· ≠ 0)))
          | .ok (_, .directory) =>
            modifyProc fun p => { p with line := 0 }
            exit 0
          | _ =>
            complain ("cannot open " ++ file ++ ": No such file")
            exit 2
        | _, rest =>
          modifyProc fun p => { p with args := rest, line := 1 }
          let text := (← readAll 0).getD ""
          runText fuel "" (String.ofList (text.toList.filter (· ≠ '\x00')))
    let absorb (f : Flow) : Run Unit :=
      match f with
      | .killed pid s => throw (.killed pid s)
      | .stopped => throw .stopped
      | _ => pure ()
    try body catch f => absorb f
    try atExit fuel catch f => absorb f
    return (← proc).status

/-- Runs the commands of a text, line by line. `label` stands in front of what is said about its
written form. -/
def runText : (fuel : Nat) → (label : String) → String → Run Unit
  | 0, _, _ => throw .stopped
  | fuel + 1, label, text => do
    let p ← proc
    runLines fuel label
      { rest := text.toList, hereDocs := p.hereDocs, nextDoc := p.hereDocs.length }

def runLines : (fuel : Nat) → (label : String) → Source → Run Unit
  | 0, _, _ => throw .stopped
  | fuel + 1, label, source => do
    match nextLine source with
    | .error fault =>
      modifyProc fun p => { p with line := fault.line }
      fatal (label ++ "Syntax error: " ++ fault.message)
    | .ok (none, _) => return
    | .ok (some c, source) =>
      modifyProc fun p => { p with hereDocs := source.hereDocs }
      exec fuel c
      runLines fuel label source

/-- Runs what the script has asked for at its end. -/
def atExit : (fuel : Nat) → Run Unit
  | 0 => throw .stopped
  | fuel + 1 => do
    match (← proc).traps.lookup "0" with
    | some action =>
      modifyProc fun p => { p with traps := p.traps.filter (·.1 ≠ "0") }
      let status := (← proc).status
      runText fuel "" action
      setStatus status
    | none => return

end

end DeltaDebug.Shell
