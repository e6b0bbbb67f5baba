import DeltaDebug.Text.Quoted
import DeltaDebug.Regex.Match
import DeltaDebug.Settings.File

/-
  The settings of a session: what the command line says goes before what the session file says,
  and what neither says has a default.
-/

namespace DeltaDebug

/-- What the command line sets. -/
structure FlagSettings where
  timeoutMs : Option Nat := none
  jobs : Option Nat := none
  doubleCheck : Bool := false
  crashPattern : Option String := none
  cwd : Option String := none
  targetArgs : List String := []

/-- What a session runs with. -/
structure Settings where
  timeoutMs : Option Nat
  jobs : Nat
  doubleCheck : Bool
  crashPattern : Option Regex
  cwd : Option String
  env : List (String × String)
  targetArgs : List String

/-- The pattern that was asked for is no regular expression. -/
structure InvalidPattern where
  pattern : String

def InvalidPattern.message (e : InvalidPattern) : String :=
  "invalid crash pattern " ++ Text.quoted e.pattern

/-- Merges the two sources. -/
def Settings.resolve (file : FileSettings) (flags : FlagSettings) :
    Except InvalidPattern Settings := do
  let crashPattern ← match flags.crashPattern <|> file.crashPattern with
    | none => pure none
    | some text =>
      match Regex.ofText? text with
      | some r => pure (some r)
      | none => throw ⟨text⟩
  return {
    timeoutMs := flags.timeoutMs <|> file.timeoutMs
    jobs := (flags.jobs <|> file.jobs).getD 1
    doubleCheck := flags.doubleCheck || file.doubleCheck.getD false
    crashPattern := crashPattern
    cwd := flags.cwd <|> file.cwd
    env := file.env
    targetArgs := if flags.targetArgs.isEmpty then file.args else flags.targetArgs }

end DeltaDebug
