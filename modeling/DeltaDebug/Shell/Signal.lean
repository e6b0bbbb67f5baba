/-
  Signals by number and name, and what they do to a process that says nothing about them.
-/

namespace DeltaDebug.Shell.Signal

/-- The signals, by number from 1 on. -/
def names : List String :=
  ["HUP", "INT", "QUIT", "ILL", "TRAP", "ABRT", "BUS", "FPE", "KILL", "USR1", "SEGV", "USR2", "PIPE",
   "ALRM", "TERM", "STKFLT", "CHLD", "CONT", "STOP", "TSTP", "TTIN", "TTOU", "URG", "XCPU", "XFSZ",
   "VTALRM", "PROF", "WINCH", "IO", "PWR", "SYS"]

/-- The number of a signal; zero stands for the end of a script, or for no signal at all. -/
def number? (text : String) : Option Nat :=
  if text = "EXIT" then some 0
  else if text ≠ "" ∧ text.toList.all Char.isDigit then
    match text.toNat? with
    | some n => if n ≤ 64 then some n else none
    | none => none
  else
    let upper := text.map Char.toUpper
    (names.findIdx? (· = upper)).map (· + 1)

/-- What a signal does by default. -/
inductive Effect where
  | none
  | stop
  | kill

def effect (n : Nat) : Effect :=
  if n = 0 ∨ n = 17 ∨ n = 18 ∨ n = 23 ∨ n = 28 then .none
  else if 19 ≤ n ∧ n ≤ 22 then .stop
  else .kill

/-- Whether a process can choose what a signal does. -/
def canTrap (n : Nat) : Bool := n ≠ 9 && n ≠ 19

/-- What a shell writes when a signal ends a command; nothing for those that are common. -/
def report (n : Nat) : String :=
  match n with
  | 1 => "Hangup"
  | 3 => "Quit"
  | 4 => "Illegal instruction"
  | 5 => "Trace/breakpoint trap"
  | 6 => "Aborted"
  | 7 => "Bus error"
  | 8 => "Floating point exception"
  | 9 => "Killed"
  | 10 => "User defined signal 1"
  | 11 => "Segmentation fault"
  | 12 => "User defined signal 2"
  | 14 => "Alarm clock"
  | 15 => "Terminated"
  | 16 => "Stack fault"
  | 24 => "CPU time limit exceeded"
  | 25 => "File size limit exceeded"
  | 26 => "Virtual timer expired"
  | 27 => "Profiling timer expired"
  | 29 => "I/O possible"
  | 30 => "Power failure"
  | 31 => "Bad system call"
  | _ => if 34 ≤ n ∧ n ≤ 64 then s!"Real-time signal {n - 34}" else ""

end DeltaDebug.Shell.Signal
