import DeltaDebug.Regex.Match

/-
  Patterns for lines, in the basic and the extended notation, read as regular expressions over
  bytes. In the basic notation the operators carry a backslash and are plain without one.
-/

namespace DeltaDebug.Shell.LinePattern

/-- How a pattern is written. -/
inductive Dialect where
  | fixed
  | basic
  | extended
deriving DecidableEq

def hexDigit (n : Nat) : Char := if n < 10 then Char.ofNat (48 + n) else Char.ofNat (87 + n)

/-- One byte, for itself. -/
def literal (c : Char) : List Char :=
  if c.isAlphanum then [c]
  else ['\\', 'x', hexDigit (c.toNat / 16 % 16), hexDigit (c.toNat % 16)]

/-- The members of a bracketed set, up to its closing bracket; a backslash is plain there. -/
def bracket : (fuel : Nat) → (first : Bool) → List Char → Option (List Char × List Char)
  | 0, _, _ => none
  | fuel + 1, first, cs =>
    match cs with
    | [] => none
    | ']' :: rest =>
      if first then (bracket fuel false rest).map fun (t, r) => (literal ']' ++ t, r)
      else some ([']'], rest)
    | '[' :: ':' :: rest =>
      let name := rest.takeWhile Char.isAlpha
      match rest.drop name.length with
      | ':' :: ']' :: rest =>
        (bracket fuel false rest).map fun (t, r) => ("[:".toList ++ name ++ ":]".toList ++ t, r)
      | _ => none
    | '-' :: rest => (bracket fuel false rest).map fun (t, r) =>
      (if first || r.length + t.length = 0 then literal '-' ++ t
       else if rest.head? = some ']' then literal '-' ++ t else '-' :: t, r)
    | c :: rest => (bracket fuel false rest).map fun (t, r) => (literal c ++ t, r)

/-- The regular expression for a pattern; `start` tells that a branch begins here. -/
def convert (extended : Bool) : (fuel : Nat) → (start : Bool) → List Char → Option (List Char)
  | 0, _, _ => some []
  | fuel + 1, start, cs =>
    let operators : List Char := ['(', ')', '|', '+', '?', '\x7b', '\x7d']
    match cs with
    | [] => some []
    | '[' :: '^' :: rest => do
      let (t, rest) ← bracket (rest.length + 1) true rest
      return "[^".toList ++ t ++ (← convert extended fuel false rest)
    | '[' :: rest => do
      let (t, rest) ← bracket (rest.length + 1) true rest
      return '[' :: t ++ (← convert extended fuel false rest)
    | '\\' :: c :: rest =>
      if !extended && operators.contains c then
        (convert extended fuel (c = '(' || c = '|') rest).map (c :: ·)
      else if ['w', 'W', 's', 'S', 'b', 'B'].contains c then
        (convert extended fuel false rest).map (['\\', c] ++ ·)
      else (convert extended fuel false rest).map (literal c ++ ·)
    | ['\\'] => none
    | '.' :: rest => (convert extended fuel false rest).map ('.' :: ·)
    | '*' :: rest =>
      if start then
        (convert extended fuel (extended && start) rest).map ((if extended then [] else literal '*') ++ ·)
      else (convert extended fuel false rest).map ('*' :: ·)
    | '^' :: rest =>
      if start || extended then (convert extended fuel true rest).map ('^' :: ·)
      else (convert extended fuel false rest).map (literal '^' ++ ·)
    | '$' :: rest =>
      let atEnd := rest = [] || extended || "\\)".toList.isPrefixOf rest || "\\|".toList.isPrefixOf rest
      if atEnd then (convert extended fuel false rest).map ('$' :: ·)
      else (convert extended fuel false rest).map (literal '$' ++ ·)
    | c :: rest =>
      if extended && operators.contains c then
        (convert extended fuel (c = '(' || c = '|') rest).map (c :: ·)
      else (convert extended fuel false rest).map (literal c ++ ·)

/-- The matcher for a pattern. With `wholeLine` it has to fit the line from end to end. -/
def compile (dialect : Dialect) (ignoreCase wholeLine : Bool) (pattern : String) : Option Regex := do
  let body ← match dialect with
    | .fixed => some (pattern.toList.flatMap literal)
    | .basic => convert false (pattern.length + 1) true pattern.toList
    | .extended => convert true (pattern.length + 1) true pattern.toList
  let body := String.ofList body
  let body := if wholeLine then "^(?:" ++ body ++ ")$" else body
  Regex.ofText? ((if ignoreCase then "(?i-u)" else "(?-u)") ++ body)

end DeltaDebug.Shell.LinePattern
