import DeltaDebug.Shell.Condition
import DeltaDebug.Shell.LinePattern
import DeltaDebug.Shell.Machine
import DeltaDebug.Shell.Printf

/-
  The programs of the system that scripts call. Each reads its arguments and the channels of the
  process and returns a status.
-/

namespace DeltaDebug.Shell.Tool

open Run

/-- The cause of a failure, without its number. -/
def cause (e : FileError) : String :=
  match e with
  | .notFound => "No such file or directory"
  | .permissionDenied => "Permission denied"
  | .notADirectory => "Not a directory"
  | .isADirectory => "Is a directory"
  | .alreadyExists => "File exists"
  | .notEmpty => "Directory not empty"
  | e => e.message

/-- Splits letters of options from operands. `withValue` are the letters that take a value. With
`anywhere`, options may stand behind operands. -/
def options (anywhere : Bool) (withValue : List Char) : (fuel : Nat) → List String →
    List (Char × String) × List String
  | 0, args => ([], args)
  | fuel + 1, args =>
    match args with
    | [] => ([], [])
    | "--" :: rest => ([], rest)
    | "-" :: rest =>
      if anywhere then
        let (opts, operands) := options anywhere withValue fuel rest
        (opts, "-" :: operands)
      else ([], args)
    | a :: rest =>
      match a.toList with
      | '-' :: c :: more =>
        if withValue.contains c then
          match more, rest with
          | [], v :: rest =>
            let (opts, operands) := options anywhere withValue fuel rest
            ((c, v) :: opts, operands)
          | _, _ =>
            let (opts, operands) := options anywhere withValue fuel rest
            ((c, String.ofList more) :: opts, operands)
        else
          let rest := if more = [] then rest else ("-" ++ String.ofList more) :: rest
          let (opts, operands) := options anywhere withValue fuel rest
          ((c, "") :: opts, operands)
      | _ =>
        if anywhere then
          let (opts, operands) := options anywhere withValue fuel rest
          (opts, a :: operands)
        else ([], args)

/-- Reads the options of a command line. -/
def readOptions (withValue : String) (args : List String) : List (Char × String) × List String :=
  options true withValue.toList (args.foldl (fun n a => n + a.length + 2) 1) args

/-- Reads the options in front of the operands. -/
def leadingOptions (withValue : String) (args : List String) :
    List (Char × String) × List String :=
  options false withValue.toList (args.foldl (fun n a => n + a.length + 2) 1) args

def has (opts : List (Char × String)) (c : Char) : Bool := (opts.lookup c).isSome

def complainOf (tool s : String) : Run Unit := complainRaw (tool ++ ": " ++ s)

/-- The text of a file; a dash stands for the input channel. -/
def readFile (path : String) : Run (Except FileError String) := do
  if path = "-" then
    match ← readAll 0 with
    | some s => return .ok s
    | none => return .error (.other "Bad file descriptor")
  else
    match ← statPath path with
    | .error e => return .error e
    | .ok (_, .file content _) => return .ok (bytesText content)
    | .ok (_, .directory) => return .error .isADirectory
    | .ok (_, .tool _) => return .ok ""

/-- The texts of all operands, or of the input channel if there are none; files that cannot be read
are reported. -/
def readOperands (tool : String) (operands : List String) : Run (List (String × String) × Bool) := do
  let mut texts := []
  let mut clean := true
  for path in (if operands = [] then ["-"] else operands) do
    match ← readFile path with
    | .ok s => texts := (path, s) :: texts
    | .error e =>
      complainOf tool (path ++ ": " ++ cause e)
      clean := false
  return (texts.reverse, clean)

/-- The lines of a text; a last line without an end counts. -/
def lines (s : String) : List String :=
  match (s.splitOn "\n").reverse with
  | "" :: rest => rest.reverse
  | all => all.reverse

def unlines (ls : List String) : String := String.join (ls.map (· ++ "\n"))

def writeOut (tool s : String) : Run Nat := do
  if s = "" then return 0
  else if ← write 1 s then return 0
  else
    complainOf tool "write error: Bad file descriptor"
    return 1

/-! ## Files -/

/-- A new, empty file, if nothing is there yet. -/
def createFile (path : String) : Run (Except FileError Unit) := do
  match ← resolvePath path with
  | .error e => return .error e
  | .ok p =>
    let m ← get
    match m.files.lookup p with
    | some _ => return .ok ()
    | none =>
      modifyFiles (·.insert p (.file [] false))
      return .ok ()

def removeTree (p : Path) : Run Unit :=
  modifyFiles fun t => ⟨t.entries.filter fun (q, _) => !p.isPrefixOf q⟩

def remove (args : List String) : Run Nat := do
  let (opts, operands) := readOptions "" args
  let force := has opts 'f'
  let deep := has opts 'r' || has opts 'R'
  if operands = [] ∧ !force then
    complainOf "rm" "missing operand\nTry 'rm --help' for more information."
    return 1
  let mut status := 0
  for path in operands do
    match ← statPath path with
    | .error .notFound =>
      if !force then
        complainOf "rm" ("cannot remove '" ++ path ++ "': No such file or directory")
        status := 1
    | .error e =>
      complainOf "rm" ("cannot remove '" ++ path ++ "': " ++ cause e)
      status := 1
    | .ok (p, .directory) =>
      if deep then removeTree p
      else
        complainOf "rm" ("cannot remove '" ++ path ++ "': Is a directory")
        status := 1
    | .ok (p, _) => modifyFiles (·.erase p)
  return status

def makeDirectory (args : List String) : Run Nat := do
  let (opts, operands) := readOptions "m" args
  let mut status := 0
  for path in operands do
    match ← resolvePath path with
    | .error e =>
      if has opts 'p' then
        let m ← get
        let start := if Path.isAbsolute (textBytes path) then [] else m.proc.cwd
        modifyFiles (·.makeDirectories (start ++ Path.components (textBytes path)))
      else
        complainOf "mkdir" ("cannot create directory '" ++ path ++ "': " ++ cause e)
        status := 1
    | .ok p =>
      let m ← get
      match m.files.lookup p with
      | none => modifyFiles (·.insert p .directory)
      | some .directory =>
        if !has opts 'p' then
          complainOf "mkdir" ("cannot create directory '" ++ path ++ "': File exists")
          status := 1
      | some _ =>
        complainOf "mkdir" ("cannot create directory '" ++ path ++ "': File exists")
        status := 1
  return status

def removeDirectory (args : List String) : Run Nat := do
  let mut status := 0
  for path in args do
    match ← statPath path with
    | .error e =>
      complainOf "rmdir" ("failed to remove '" ++ path ++ "': " ++ cause e)
      status := 1
    | .ok (p, .directory) =>
      if (← get).files.children p = [] then modifyFiles (·.erase p)
      else
        complainOf "rmdir" ("failed to remove '" ++ path ++ "': Directory not empty")
        status := 1
    | .ok _ =>
      complainOf "rmdir" ("failed to remove '" ++ path ++ "': Not a directory")
      status := 1
  return status

def touch (args : List String) : Run Nat := do
  let (opts, operands) := readOptions "dtr" args
  let mut status := 0
  for path in operands do
    if has opts 'c' then continue
    match ← createFile path with
    | .ok () => pure ()
    | .error e =>
      complainOf "touch" ("cannot touch '" ++ path ++ "': " ++ cause e)
      status := 1
  return status

/-- Copies one file, or moves it. -/
def transfer (tool : String) (move : Bool) (args : List String) : Run Nat := do
  let (_, operands) := readOptions "" args
  match operands with
  | [src, dst] =>
    match ← statPath src with
    | .error e =>
      complainOf tool ("cannot stat '" ++ src ++ "': " ++ cause e)
      return 1
    | .ok (_, .directory) =>
      complainOf tool ("-r not specified; omitting directory '" ++ src ++ "'")
      return 1
    | .ok (p, entry) =>
      match ← resolvePath dst with
      | .error e =>
        complainOf tool ("cannot create regular file '" ++ dst ++ "': " ++ cause e)
        return 1
      | .ok q =>
        let q := match (← get).files.lookup q with
          | some .directory => q ++ (p.drop (p.length - 1))
          | _ => q
        modifyFiles (·.insert q entry)
        if move ∧ p ≠ q then modifyFiles (·.erase p)
        return 0
  | _ =>
    complainOf tool "missing file operand"
    return 1

/-! ## Filters -/

def cat (args : List String) : Run Nat := do
  let (_, operands) := readOptions "" args
  let (texts, clean) ← readOperands "cat" operands
  let status ← writeOut "cat" (String.join (texts.map (·.2)))
  return if clean then status else 1

def grep (args : List String) : Run Nat := do
  let (opts, operands) := readOptions "efmABC" args
  let patterns := opts.filterMap fun (c, v) => if c = 'e' then some v else none
  let usage : Run Nat := do
    complainRaw ("Usage: grep [OPTION]... PATTERNS [FILE]...\n" ++
      "Try 'grep --help' for more information.")
    return 2
  match patterns, operands with
  | [], [] => usage
  | _, _ =>
    let (patterns, operands) := match patterns with
      | [] => (operands.take 1, operands.drop 1)
      | ps => (ps, operands)
    let patterns := patterns.flatMap (·.splitOn "\n")
    let dialect := if has opts 'F' then LinePattern.Dialect.fixed
      else if has opts 'E' then .extended else .basic
    match patterns.mapM (LinePattern.compile dialect (has opts 'i') (has opts 'x')) with
    | none =>
      complainOf "grep" "Invalid regular expression"
      return 2
    | some regexes =>
      let (texts, clean) ← readOperands "grep" operands
      let named := (operands.length > 1 || has opts 'H') && !has opts 'h'
      let mut found := false
      let mut out := ""
      for (path, text) in texts do
        -- a text with NUL characters counts as binary: they end lines, and no line is shown
        let binary := text.toList.contains '\x00' && !has opts 'a'
        let text := if binary then text.map fun c => if c = '\x00' then '\n' else c else text
        let hits := ((lines text).zipIdx 1).filter fun (l, _) =>
          regexes.any (·.matchesBytes (textBytes l)) != has opts 'v'
        if hits ≠ [] then found := true
        let mark := if named then (if path = "-" then "(standard input)" else path) ++ ":" else ""
        if has opts 'c' then out := out ++ mark ++ toString hits.length ++ "\n"
        else if has opts 'l' then
          if hits ≠ [] then out := out ++ path ++ "\n"
        else if binary then
          if hits ≠ [] ∧ !has opts 'q' then
            let label := if path = "-" then "(standard input)" else path
            complainOf "grep" (label ++ ": binary file matches")
        else out := out ++ unlines (hits.map fun (l, number) =>
          mark ++ (if has opts 'n' then toString number ++ ":" else "") ++ l)
      if !has opts 'q' then
        let _ ← writeOut "grep" out
      if found && (clean || has opts 'q') then return 0
      else return if clean then 1 else 2

def wordCount (args : List String) : Run Nat := do
  let (opts, operands) := readOptions "" args
  let (texts, clean) ← readOperands "wc" operands
  let all := opts.isEmpty
  let mut status := 0
  for (path, text) in texts do
    let ls := (text.toList.filter (· = '\n')).length
    let ws := ((text.split Condition.isSpace).toList.filter (!·.isEmpty)).length
    let counts := (if all || has opts 'l' then [ls] else []) ++ (if all || has opts 'w' then [ws] else [])
      ++ (if all || has opts 'c' || has opts 'm' then [text.length] else [])
    let label := if path = "-" then [] else [path]
    status ← writeOut "wc" (" ".intercalate (counts.map toString ++ label) ++ "\n")
  return if clean then status else 1

/-- The first or last lines or bytes. -/
def ends (tool : String) (first : Bool) (args : List String) : Run Nat := do
  let args := args.map fun a =>
    match a.toList with
    | '-' :: c :: rest => if c.isDigit then "-n" ++ String.ofList (c :: rest) else a
    | _ => a
  let (opts, operands) := readOptions "nc" args
  let (texts, clean) ← readOperands tool operands
  let (bytes, amount) := match opts with
    | ('c', v) :: _ => (true, v)
    | (_, v) :: _ => (false, v)
    | [] => (false, "10")
  let fromStart := amount.startsWith "+"
  let allBut := amount.startsWith "-"
  let n := (String.ofList (amount.toList.filter Char.isDigit)).toNat?.getD 10
  let pick {α : Type} (xs : List α) : List α :=
    if first then (if allBut then xs.take (xs.length - n) else xs.take n)
    else if fromStart then xs.drop (n - 1) else xs.drop (xs.length - n)
  let mut status := 0
  for (_, text) in texts do
    if bytes then status ← writeOut tool (String.ofList (pick text.toList))
    else
      let chosen := pick (lines text)
      let out := unlines chosen
      let reachesEnd := !first || chosen.length = (lines text).length
      let out := if reachesEnd && text ≠ "" && !text.endsWith "\n" && out ≠ ""
        then String.ofList out.toList.dropLast else out
      status ← writeOut tool out
  return if clean then status else 1

/-- The characters of a set as `tr` writes it. -/
def charSet : (fuel : Nat) → List Char → List Char
  | 0, _ => []
  | fuel + 1, cs =>
    match cs with
    | [] => []
    | '\\' :: c :: rest =>
      if Printf.isOctal c then
        let ds := ((c :: rest).take 3).takeWhile Printf.isOctal
        Printf.octal ds :: charSet fuel ((c :: rest).drop ds.length)
      else (Printf.letter? c).getD c :: charSet fuel rest
    | '[' :: ':' :: rest =>
      let name := rest.takeWhile Char.isAlpha
      match rest.drop name.length with
      | ':' :: ']' :: more =>
        let members := (List.range 256).map Char.ofNat |>.filter fun c =>
          match String.ofList name with
          | "alpha" => c.isAlpha
          | "digit" => c.isDigit
          | "alnum" => c.isAlphanum
          | "upper" => c.isUpper
          | "lower" => c.isLower
          | "space" => Condition.isSpace c
          | "punct" => '!' ≤ c && c ≤ '~' && !c.isAlphanum
          | "print" => ' ' ≤ c && c ≤ '~'
          | _ => false
        members ++ charSet fuel more
      | _ => '[' :: charSet fuel (':' :: rest)
    | a :: '-' :: b :: rest =>
      (List.range (b.toNat + 1 - a.toNat)).map (fun k => Char.ofNat (a.toNat + k)) ++ charSet fuel rest
    | c :: rest => c :: charSet fuel rest

def translate (args : List String) : Run Nat := do
  let (opts, operands) := readOptions "" args
  let sets := operands.map fun s => charSet (s.length + 1) s.toList
  let first := sets.getD 0 []
  let inFirst (c : Char) : Bool := first.contains c != (has opts 'c' || has opts 'C')
  let text := (← readAll 0).getD ""
  let second := sets.getD 1 []
  let cs := text.toList
  let cs := if has opts 'd' then cs.filter (!inFirst ·)
    else if sets.length < 2 then cs
    else cs.map fun c =>
      if !inFirst c then c
      else match first.findIdx? (· = c) with
        | some i => (second[i]?).getD ((second.getLast?).getD c)
        | none => (second.getLast?).getD c
  let squeezed := if has opts 's' then
      let set := if sets.length < 2 then first else second
      (cs.foldl (fun (acc : List Char) c =>
        if acc.head? = some c && set.contains c then acc else c :: acc) []).reverse
    else cs
  writeOut "tr" (String.ofList squeezed)

def sequence (args : List String) : Run Nat := do
  let ns := args.map fun a => (Condition.number a).toOption.getD 0
  let (lo, step, hi) := match ns with
    | [hi] => (1, 1, hi)
    | [lo, hi] => (lo, 1, hi)
    | [lo, step, hi] => (lo, step, hi)
    | _ => (1, 1, 0)
  let count := if step = 0 then 0 else ((hi - lo) / step + 1).toNat
  writeOut "seq" (unlines ((List.range count).map fun (k : Nat) => toString (lo + step * (k : Int))))

def sortLines (args : List String) : Run Nat := do
  let (opts, operands) := readOptions "kto" args
  let (texts, clean) ← readOperands "sort" operands
  let all := texts.flatMap fun (_, t) => lines t
  let key (s : String) : Int := ((Arith.ofText? (String.ofList (s.toList.takeWhile fun c =>
    c.isDigit || c = '-' || c = ' '))).getD 0)
  let sorted := all.mergeSort fun a b =>
    if has opts 'n' then key a < key b || (key a = key b && a ≤ b) else a ≤ b
  let sorted := if has opts 'r' then sorted.reverse else sorted
  let sorted := if has opts 'u' then sorted.eraseReps else sorted
  let status ← writeOut "sort" (unlines sorted)
  return if clean then status else 2

def uniqueLines (args : List String) : Run Nat := do
  let (opts, operands) := readOptions "" args
  let (texts, clean) ← readOperands "uniq" operands
  let all := texts.flatMap fun (_, t) => lines t
  let groups := all.splitBy (· = ·)
  let groups := if has opts 'd' then groups.filter (·.length > 1) else groups
  let groups := if has opts 'u' then groups.filter (·.length = 1) else groups
  let status ← writeOut "uniq" (unlines (groups.map fun g =>
    let mark := if has opts 'c' then
        let n := toString g.length
        String.ofList (List.replicate (7 - n.length) ' ') ++ n ++ " " else ""
    mark ++ g.headD ""))
  return if clean then status else 1

def reverseLines (args : List String) : Run Nat := do
  let (texts, _) ← readOperands "rev" args
  let mut status := 0
  for (_, text) in texts do
    let out := "\n".intercalate ((text.splitOn "\n").map fun l => String.ofList l.toList.reverse)
    status ← writeOut "rev" out
  return status

def tee (args : List String) : Run Nat := do
  let (opts, operands) := readOptions "" args
  let text := (← readAll 0).getD ""
  let mut status ← writeOut "tee" text
  for path in operands do
    match ← createFile path with
    | .error e =>
      complainOf "tee" (path ++ ": " ++ cause e)
      status := 1
    | .ok () =>
      match ← statPath path with
      | .ok (p, .file old exec) =>
        let kept := if has opts 'a' then old else []
        modifyFiles (·.insert p (.file (kept ++ textBytes text) exec))
      | _ => pure ()
  return status

def compareFiles (args : List String) : Run Nat := do
  let (opts, operands) := readOptions "" args
  match operands with
  | [a, b] =>
    match ← readFile a, ← readFile b with
    | .ok s, .ok t =>
      if s = t then return 0
      else
        if !has opts 's' then
          let _ ← writeOut "cmp" (a ++ " " ++ b ++ " differ\n")
        return 1
    | _, _ => return 2
  | _ => return 2

/-! ## Other programs -/

/-- A span of time in milliseconds: a decimal number with a unit. -/
def duration? (s : String) : Option Nat :=
  let cs := s.toList
  let (scale, cs) := match cs.getLast? with
    | some 's' => (1000, cs.dropLast)
    | some 'm' => (60000, cs.dropLast)
    | some 'h' => (3600000, cs.dropLast)
    | some 'd' => (86400000, cs.dropLast)
    | _ => (1000, cs)
  let whole := cs.takeWhile Char.isDigit
  let rest := cs.drop whole.length
  let fraction := match rest with
    | '.' :: ds => ds
    | _ => []
  let wellFormed := (rest = [] || rest.head? = some '.') && fraction.all Char.isDigit
    && !(whole = [] && fraction = [])
  if wellFormed then
    let n := (whole ++ fraction).foldl (fun n c => n * 10 + (c.toNat - 48)) 0
    some (n * scale / Nat.pow 10 fraction.length)
  else if s = "infinity" || s = "inf" then some 1000000000000000
  else none

def sleep (args : List String) : Run Nat := do
  if args = [] then
    complainOf "sleep" "missing operand\nTry 'sleep --help' for more information."
    return 1
  match args.find? fun a => (duration? a).isNone with
  | some a =>
    complainOf "sleep" ("invalid time interval '" ++ a ++ "'\n" ++
      "Try 'sleep --help' for more information.")
    return 1
  | none =>
    let total := (args.filterMap duration?).foldl (· + ·) 0
    sleepUntil ((← get).clock + total)
    return 0

/-- What a condition can see of the files. -/
def fileTests : Run Condition.FileTests := do
  let m ← get
  let look (path : String) : Option (Path × FileEntry) :=
    (m.files.stat m.proc.cwd (textBytes path)).toOption
  return {
    holds := fun op path =>
      match look path with
      | none => false
      | some (_, entry) =>
        match op, entry with
        | "-e", _ => true
        | "-r", _ => true
        | "-w", _ => true
        | "-O", _ => true
        | "-G", _ => true
        | "-f", .file _ _ => true
        | "-f", .tool n => n ≠ "/dev/null"
        | "-c", .tool n => n = "/dev/null"
        | "-d", .directory => true
        | "-s", .file content _ => content ≠ []
        | "-s", .tool n => n ≠ "/dev/null"
        | "-s", .directory => true
        | "-x", .file _ exec => exec
        | "-x", .tool n => n ≠ "/dev/null"
        | "-x", .directory => true
        | _, _ => false
    sameFile := fun a b =>
      match look a, look b with
      | some (p, _), some (q, _) => p = q
      | _, _ => false }

/-- Evaluates a condition; `name` is how it was called. -/
def test (name : String) (args : List String) : Run Nat := do
  let fault (s : String) : Run Nat := do
    complain (name ++ ": " ++ s)
    return 2
  let closed := (args.getLast?).any (·.startsWith "]")
  if name = "[" ∧ !closed then fault "missing ]"
  else
    let words := if name = "[" then args.dropLast else args
    match Condition.holds (← fileTests) (words.length + 1) words with
    | .error e => fault e
    | .ok true => return 0
    | .ok false => return 1

def printf (args : List String) : Run Nat := do
  let args := match args with
    | "--" :: rest => rest
    | args => args
  match args with
  | format :: values =>
    if format.startsWith "-" ∧ format ≠ "-" then
      complain ("printf: Illegal option " ++ String.ofList (format.toList.take 2))
      return 2
    let (out, faults) := Printf.render format values
    for f in faults do complain ("printf: " ++ f)
    if out = "" ∨ (← write 1 out) then return if faults = [] then 0 else 1
    else
      complain "printf: printf: I/O error"
      return 1
  | [] =>
    complain "printf: usage: printf format [arg ...]"
    return 2

def baseName (args : List String) : Run Nat := do
  match args with
  | path :: rest =>
    let parts := (path.splitOn "/").filter (· ≠ "")
    let name := (parts.getLast?).getD "/"
    let suffix := rest.headD ""
    let name := if suffix ≠ "" ∧ name ≠ suffix ∧ name.endsWith suffix
      then String.ofList (name.toList.take (name.length - suffix.length)) else name
    writeOut "basename" (name ++ "\n")
  | [] =>
    complainOf "basename" "missing operand"
    return 1

def dirName (args : List String) : Run Nat := do
  match args with
  | path :: _ =>
    let parts := (path.splitOn "/").filter (· ≠ "")
    let body := "/".intercalate parts.dropLast
    let out := if path.startsWith "/" then "/" ++ body else if body = "" then "." else body
    writeOut "dirname" (out ++ "\n")
  | [] =>
    complainOf "dirname" "missing operand"
    return 1

def list (args : List String) : Run Nat := do
  let (opts, operands) := readOptions "" args
  let mut status := 0
  for path in (if operands = [] then ["."] else operands) do
    match ← statPath path with
    | .error e =>
      complainOf "ls" ("cannot access '" ++ path ++ "': " ++ cause e)
      status := 2
    | .ok (p, .directory) =>
      let names := ((← get).files.children p).map bytesText
      let names := if has opts 'a' || has opts 'A' then names else names.filter (!·.startsWith ".")
      let _ ← writeOut "ls" (unlines (names.mergeSort (fun a b => a ≤ b)))
    | .ok _ =>
      let _ ← writeOut "ls" (path ++ "\n")
  return status

/-- Runs a program of the system by its name. -/
def run (name : String) (args : List String) : Run Nat :=
  match name with
  | "true" => pure 0
  | "false" => pure 1
  | "echo" =>
    let (bare, words) := match args with
      | "-n" :: rest => (true, rest)
      | words => (false, words)
    writeOut "echo" (" ".intercalate words ++ if bare then "" else "\n")
  | "printf" => printf args
  | "cat" => cat args
  | "grep" => grep args
  | "egrep" => grep ("-E" :: args)
  | "fgrep" => grep ("-F" :: args)
  | "sleep" => sleep args
  | "rm" => remove args
  | "touch" => touch args
  | "mkdir" => makeDirectory args
  | "rmdir" => removeDirectory args
  | "cp" => transfer "cp" false args
  | "mv" => transfer "mv" true args
  | "test" => test "test" args
  | "[" => test "[" args
  | "wc" => wordCount args
  | "head" => ends "head" true args
  | "tail" => ends "tail" false args
  | "tr" => translate args
  | "seq" => sequence args
  | "sort" => sortLines args
  | "uniq" => uniqueLines args
  | "rev" => reverseLines args
  | "tee" => tee args
  | "cmp" => compareFiles args
  | "basename" => baseName args
  | "dirname" => dirName args
  | "ls" => list args
  | "pwd" => do
    let p ← proc
    writeOut "pwd" ("/" ++ "/".intercalate (p.cwd.map bytesText) ++ "\n")
  | _ => pure 0

end DeltaDebug.Shell.Tool
