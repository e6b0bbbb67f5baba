/-
  The arguments of the command line. Options may stand anywhere before a double dash; behind it
  everything goes to the target. Faults are found in the order of the arguments, so that a request
  for the version counts only if nothing before it is wrong.
-/

namespace DeltaDebug.CommandLine

/-- How a report is written. -/
inductive ReportFormat where
  | json
  | text
deriving DecidableEq

/-- What the arguments ask for. -/
structure Arguments where
  target : String
  input : String
  targetArgs : List String := []
  format : ReportFormat := .text
  output : Option String := none
  report : Option String := none
  timeoutMs : Option Nat := none
  jobs : Option Nat := none
  doubleCheck : Bool := false
  crashPattern : Option String := none
  cwd : Option String := none
  config : Option String := none
  verbosity : Nat := 0
deriving DecidableEq

/-- Why there is nothing to run. -/
inductive Refusal where
  /-- The version was asked for. -/
  | version
  /-- Help was asked for. -/
  | help
  | unknownArgument (text : String)
  | unexpectedValue (option : String)
  | missingValue (option : String)
  | invalidValue (option value : String)
  | repeated (option : String)
  | missingPositional (name : String)
deriving DecidableEq

/-- The wording of a fault in the arguments. -/
def Refusal.message : Refusal → String
  | .version => ""
  | .help => ""
  | .unknownArgument text => s!"unexpected argument '{text}' found"
  | .unexpectedValue option => s!"unexpected value for '{option}' found; no more were expected"
  | .missingValue option => s!"a value is required for '{option}' but none was supplied"
  | .invalidValue option value => s!"invalid value '{value}' for '{option}'"
  | .repeated option => s!"the argument '{option}' cannot be used multiple times"
  | .missingPositional name => s!"the required argument <{name}> was not provided"

namespace Arguments

/-- The options that take a value. -/
inductive ValueOption where
  | format
  | output
  | report
  | timeoutMs
  | jobs
  | crashPattern
  | cwd
  | config
deriving DecidableEq

/-- How an option is written. -/
def ValueOption.text : ValueOption → String
  | .format => "--format"
  | .output => "--output"
  | .report => "--report"
  | .timeoutMs => "--timeout-ms"
  | .jobs => "--jobs"
  | .crashPattern => "--crash-pattern"
  | .cwd => "--cwd"
  | .config => "--config"

def ValueOption.all : List ValueOption :=
  [.format, .output, .report, .timeoutMs, .jobs, .crashPattern, .cwd, .config]

/-- What has been read so far. -/
structure Reading where
  positionals : List String := []
  values : List (ValueOption × String) := []
  doubleCheck : Bool := false
  verbosity : Nat := 0
  /-- An option whose value is still to come. -/
  pending : Option ValueOption := none

/-- A number of 64 bits: digits, possibly with a plus sign in front. -/
def number? (s : String) : Option Nat :=
  let digits := match s.toList with
    | '+' :: rest => rest
    | cs => cs
  if digits = [] ∨ !digits.all Char.isDigit then none
  else
    let n := digits.foldl (fun n c => n * 10 + (c.toNat - 48)) 0
    if n < 18446744073709551616 then some n else none

/-- Whether an option takes a value. -/
def ValueOption.accepts : ValueOption → String → Bool
  | .format, v => v = "json" || v = "text"
  | .timeoutMs, v | .jobs, v => (number? v).isSome
  | .crashPattern, _ => true
  | .output, v | .report, v | .cwd, v | .config, v => v ≠ ""

/-- Takes the value of an option. -/
def setValue (r : Reading) (o : ValueOption) (v : String) : Except Refusal Reading :=
  if (r.values.lookup o).isSome then .error (.repeated o.text)
  else if !o.accepts v then .error (.invalidValue o.text v)
  else .ok { r with values := r.values ++ [(o, v)], pending := none }

/-- Takes a letter behind a single dash. -/
def letters (r : Reading) : List Char → Except Refusal Reading
  | [] => .ok r
  | 'v' :: rest => letters { r with verbosity := min (r.verbosity + 1) 255 } rest
  | 'V' :: _ => .error .version
  | 'h' :: _ => .error .help
  | c :: _ => .error (.unknownArgument ("-" ++ String.singleton c))

/-- Takes an argument behind two dashes. -/
def long (r : Reading) (arg : String) : Except Refusal Reading :=
  let name := String.ofList (arg.toList.takeWhile (· ≠ '='))
  let value := if name.length < arg.length
    then some (String.ofList (arg.toList.drop (name.length + 1))) else none
  match ValueOption.all.find? (·.text = name) with
  | some o =>
    match value with
    | some v => setValue r o v
    | none =>
      if (r.values.lookup o).isSome then .error (.repeated o.text)
      else .ok { r with pending := some o }
  | none =>
    let plain (next : Except Refusal Reading) : Except Refusal Reading :=
      if value.isSome then .error (.unexpectedValue name) else next
    match name with
    | "--double-check" =>
      plain (if r.doubleCheck then .error (.repeated name) else .ok { r with doubleCheck := true })
    | "--verbose" => plain (.ok { r with verbosity := min (r.verbosity + 1) 255 })
    | "--version" => plain (.error .version)
    | "--help" => plain (.error .help)
    | _ => .error (.unknownArgument name)

/-- Takes an argument that is no option. -/
def plain (r : Reading) (arg : String) : Except Refusal Reading :=
  match r.pending with
  | some o => setValue r o arg
  | none =>
    if r.positionals.length = 2 then .error (.unknownArgument arg)
    else if arg = "" then .error (.invalidValue "path" arg)
    else .ok { r with positionals := r.positionals ++ [arg] }

/-- What was read, once there are no more arguments. -/
def finish (r : Reading) (targetArgs : List String) : Except Refusal Arguments :=
  match r.pending, r.positionals with
  | some o, _ => .error (.missingValue o.text)
  | none, [target, input] =>
    let value (o : ValueOption) : Option String := r.values.lookup o
    .ok {
      target, input, targetArgs
      format := if value .format = some "json" then .json else .text
      output := value .output
      report := value .report
      timeoutMs := (value .timeoutMs).bind number?
      jobs := (value .jobs).bind number?
      doubleCheck := r.doubleCheck
      crashPattern := value .crashPattern
      cwd := value .cwd
      config := value .config
      verbosity := r.verbosity }
  | none, [_] => .error (.missingPositional "INPUT")
  | none, _ => .error (.missingPositional "TARGET")

/-- Reads the arguments one after the other. -/
def readFrom (r : Reading) : List String → Except Refusal Arguments
  | [] => finish r []
  | arg :: rest => do
    if arg = "--" then finish r rest
    else
      let isOption := arg.startsWith "-" && arg ≠ "-"
      match isOption, r.pending with
      | true, some o => throw (.missingValue o.text)
      | true, none =>
        let next ← if arg.startsWith "--" then long r arg else letters r (arg.toList.drop 1)
        readFrom next rest
      | false, _ =>
        let next ← plain r arg
        readFrom next rest

/-- Reads a command line. -/
def parse (args : List String) : Except Refusal Arguments := readFrom {} args

end Arguments

end DeltaDebug.CommandLine
