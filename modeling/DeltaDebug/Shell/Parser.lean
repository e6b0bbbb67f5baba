import DeltaDebug.Shell.Script

/-
  The written form of scripts. A script is read one line of commands at a time, as it is also run
  that way: what stands behind a command that ends the script is never looked at.
-/

namespace DeltaDebug.Shell

/-- A here-document whose text has not been reached yet. -/
structure Pending where
  id : Nat
  delimiter : String
  stripTabs : Bool
  quoted : Bool

/-- The state of the parser. -/
structure Source where
  rest : List Char
  line : Nat := 1
  pending : List Pending := []
  /-- The here-documents so far, by number. -/
  hereDocs : List (Nat × Word) := []
  nextDoc : Nat := 0

/-- What is wrong with a script, and on which line. -/
structure SyntaxFault where
  line : Nat
  message : String

abbrev Parse := StateT Source (Except SyntaxFault)

def syntaxFault {α : Type} (message : String) : Parse α := fun s => .error ⟨s.line, message⟩

def unexpected {α : Type} (what : String) : Parse α := syntaxFault (what ++ " unexpected")

def peek (k : Nat) : Parse (Option Char) := fun s => .ok (s.rest[k]?, s)

/-- Takes one character. -/
def take1 : Parse (Option Char) := fun s =>
  match s.rest with
  | [] => .ok (none, s)
  | c :: rest => .ok (some c, { s with rest := rest, line := if c = '\n' then s.line + 1 else s.line })

def drop : Nat → Parse Unit
  | 0 => pure ()
  | n + 1 => do
    let _ ← take1
    drop n

/-- Whether the text goes on with these characters. -/
def looksAt (text : String) : Parse Bool := fun s => .ok (text.toList.isPrefixOf s.rest, s)

def isBlankChar (c : Char) : Bool := c = ' ' || c = '\t'

/-- Characters that end a word unless they are quoted. -/
def isMeta (c : Char) : Bool := " \t\n;&|<>()".toList.contains c

/-- Moves over blanks, joined lines and comments. -/
def skipBlanksIn : List Char → (line : Nat) → List Char × Nat
  | [], line => ([], line)
  | c :: rest, line =>
    if isBlankChar c then skipBlanksIn rest line
    else match c, rest with
      | '\\', '\n' :: rest => skipBlanksIn rest (line + 1)
      | '#', _ => ((c :: rest).dropWhile (· ≠ '\n'), line)
      | _, _ => (c :: rest, line)

def skipBlanks : Parse Unit := fun s =>
  let (rest, line) := skipBlanksIn s.rest s.line
  .ok ((), { s with rest := rest, line := line })

def isNameStart (c : Char) : Bool := c.isAlpha || c = '_'

def isNameChar (c : Char) : Bool := c.isAlphanum || c = '_'

def isName (cs : List Char) : Bool :=
  match cs with
  | c :: rest => isNameStart c && rest.all isNameChar
  | [] => false

/-- One line of text with its line end, and what follows it. -/
def splitLine (cs : List Char) : List Char × List Char :=
  (cs.takeWhile (· ≠ '\n'), (cs.dropWhile (· ≠ '\n')).drop 1)

/-- The lines of a here-document up to its delimiter. -/
def hereLines (delimiter : List Char) (stripTabs : Bool) : (fuel : Nat) → List Char →
    List Char × List Char × Nat
  | 0, cs => ([], cs, 0)
  | fuel + 1, cs =>
    if cs = [] then ([], [], 0)
    else
      let (line, rest) := splitLine cs
      let line := if stripTabs then line.dropWhile (· = '\t') else line
      if line = delimiter then ([], rest, 1)
      else
        -- the last line of the text may have no end
        let ended := cs.contains '\n'
        let (more, rest, n) := hereLines delimiter stripTabs fuel rest
        if ended then (line ++ '\n' :: more, rest, n + 1) else (line, rest, n)

/-- The letters of special parameters. -/
def isSpecialParam (c : Char) : Bool := "@*#?-$!".toList.contains c || c.isDigit

/-- Joins neighbouring literals of one kind. -/
def addLit (acc : List Part) (c : Char) (quoted : Bool) : List Part :=
  match acc with
  | .lit s q :: rest => if q = quoted then .lit (s.push c) q :: rest else .lit (String.singleton c) quoted :: acc
  | _ => .lit (String.singleton c) quoted :: acc

/-- Marks that something quoted stands here, even if it is empty. -/
def addEmpty (acc : List Part) : List Part := .lit "" true :: acc

/-- The raw text of a back-quoted command, up to its closing quote. -/
def backquoted (inQuotes : Bool) : (fuel : Nat) → (acc : List Char) → Parse (List Char)
  | 0, _ => syntaxFault "EOF in backquote substitution"
  | fuel + 1, acc => do
    match ← take1 with
    | none => syntaxFault "EOF in backquote substitution"
    | some '\x60' => return acc.reverse
    | some '\\' =>
      match ← take1 with
      | none => syntaxFault "EOF in backquote substitution"
      | some c =>
        if c = '\x60' ∨ c = '\\' ∨ c = '$' ∨ (inQuotes ∧ c = '"') then backquoted inQuotes fuel (c :: acc)
        else backquoted inQuotes fuel (c :: '\\' :: acc)
    | some c => backquoted inQuotes fuel (c :: acc)

/-- Runs a parser on another text and comes back. -/
def onText {α : Type} (text : List Char) (p : Parse α) : Parse α := fun s =>
  match p { s with rest := text } with
  | .ok (a, t) => .ok (a, { t with rest := s.rest, line := s.line })
  | .error e => .error e

/-- Where a word ends. -/
inductive WordEnd where
  /-- At a blank or operator. -/
  | operator
  /-- At a closing brace. -/
  | brace
  /-- At a closing brace inside double quotes. -/
  | quotedBrace
  /-- At the two closing parentheses of an arithmetic expression. -/
  | arith
  /-- At the end of a here-document, in which double quotes are plain. -/
  | document
deriving DecidableEq

def WordEnd.isBrace (e : WordEnd) : Bool := e = .brace || e = .quotedBrace

def reserved : List String :=
  ["if", "then", "elif", "else", "fi", "while", "until", "do", "done", "for", "case", "esac", "in",
   "\x7b", "\x7d", "!"]

/-- The reserved word here, if the next word is one; it has to end at a blank or operator. -/
def reservedHere : Parse (Option String) := fun s =>
  let word := s.rest.takeWhile (!isMeta ·)
  let text := String.ofList word
  .ok (if reserved.contains text then some text else none, s)

/-- Operator that stands here, as it is named in messages. -/
def operatorName (cs : List Char) : String :=
  match cs with
  | [] => "end of file"
  | '\n' :: _ => "newline"
  | '&' :: '&' :: _ => "\"&&\""
  | '|' :: '|' :: _ => "\"||\""
  | ';' :: ';' :: _ => "\";;\""
  | '<' :: _ => "redirection"
  | '>' :: _ => "redirection"
  | c :: rest =>
    if isMeta c then "\"" ++ String.singleton c ++ "\""
    else
      let word := (c :: rest).takeWhile (!isMeta ·)
      let text := String.ofList word
      if reserved.contains text then "\"" ++ text ++ "\"" else "word"

/-- Reports what stands here as out of place. -/
def unexpectedHere {α : Type} (expecting : Option String) : Parse α := fun s =>
  let tail := match expecting with
    | some "word" => " (expecting word)"
    | some e => " (expecting \"" ++ e ++ "\")"
    | none => ""
  .error ⟨s.line, operatorName s.rest ++ " unexpected" ++ tail⟩

/-- The name of a parameter, if one stands here. -/
def paramName : Parse (Option String) := do
  let s ← get
  match s.rest with
  | c :: _ =>
    let taken (p : Char → Bool) : Parse (Option String) := do
      let name := s.rest.takeWhile p
      drop name.length
      return some (String.ofList name)
    if isNameStart c then taken isNameChar
    else if c.isDigit then taken Char.isDigit
    else if isSpecialParam c then
      drop 1
      return some (String.singleton c)
    else return none
  | [] => return none

/-- A part as it stands inside quotes. -/
def quotePart : Part → Part
  | .lit s _ => .lit s true
  | .param n op colon w _ => .param n op colon w true
  | .command b _ => .command b true
  | .arith e _ => .arith e true

/-- A word that starts with a name and an equals sign. -/
def splitAssign : Word → Option (String × Word)
  | .lit s false :: rest =>
    let cs := s.toList
    let name := cs.takeWhile (· ≠ '=')
    if isName name ∧ name.length < cs.length then
      let value := cs.drop (name.length + 1)
      some (String.ofList name, if value = [] then rest else .lit (String.ofList value) false :: rest)
    else none
  | _ => none

/-- Takes a reserved word that has to stand here. -/
def expect (word : String) : Parse Unit := do
  skipBlanks
  if (← reservedHere) = some word then drop word.length
  else unexpectedHere (some word)

/-- Whether a list of commands ends here: at the end of the text, a closing parenthesis, two
semicolons, or a reserved word that closes or continues something. -/
def listEnds : Parse Bool := do
  skipBlanks
  match ← peek 0 with
  | none => return true
  | some ')' => return true
  | _ =>
    if ← looksAt ";;" then return true
    else match ← reservedHere with
      | some w =>
        return ["then", "elif", "else", "fi", "do", "done", "esac", "\x7d"].contains w
      | none => return false

/-- The text of a single-quoted part. -/
def singleQuoted : (fuel : Nat) → (acc : List Part) → Parse (List Part)
  | 0, _ => syntaxFault "Unterminated quoted string"
  | fuel + 1, acc => do
    match ← take1 with
    | none => syntaxFault "Unterminated quoted string"
    | some '\'' => return acc
    | some c => singleQuoted fuel (addLit acc c true)

/-- Takes the line end here; returns the here-documents that wait for it. -/
def lineEnd : Parse (List Pending) := do
  let _ ← take1
  let s ← get
  set { s with pending := [] }
  return s.pending.reverse

mutual

/-- The parts of a word up to its end; `acc` holds them last first. In `quotes`, blanks and
operators are plain. -/
def wordParts : (fuel : Nat) → WordEnd → (quotes : Bool) → (depth : Nat) → (acc : List Part) →
    Parse (List Part)
  | 0, _, _, _, _ => syntaxFault "Unterminated quoted string"
  | fuel + 1, stop, quotes, depth, acc => do
    match ← peek 0 with
    | none =>
      if quotes && stop ≠ .document then syntaxFault "Unterminated quoted string"
      else match stop with
        | .operator | .document => return acc
        | .brace => syntaxFault "Missing '\x7d'"
        | .quotedBrace => syntaxFault "Unterminated quoted string"
        | .arith => syntaxFault "Missing '))'"
    | some c =>
      if quotes && c = '"' && stop ≠ .document then
        drop 1
        return acc
      else if !quotes && stop = .operator && isMeta c then return acc
      else if !quotes && stop.isBrace && c = '\x7d' then
        drop 1
        return acc
      else if !quotes && stop = .arith && c = ')' && depth = 0 then
        if (← peek 1) = some ')' then
          drop 2
          return acc
        else syntaxFault "Missing '))'"
      else if c = '\\' then
        drop 1
        match ← take1 with
        | none => wordParts fuel stop quotes depth (addLit acc '\\' quotes)
        | some '\n' => wordParts fuel stop quotes depth acc
        | some d =>
          let special := d = '$' || d = '\x60' || d = '\\' || (d = '"' && stop ≠ .document)
            || (d = '\x7d' && stop.isBrace)
          if quotes && !special then
            wordParts fuel stop quotes depth (addLit (addLit acc '\\' true) d true)
          else wordParts fuel stop quotes depth (addLit acc d true)
      else if c = '\'' && !quotes && stop ≠ .arith then
        drop 1
        let acc ← singleQuoted fuel (addEmpty acc)
        wordParts fuel stop quotes depth acc
      else if c = '"' && stop ≠ .arith && stop ≠ .document then
        drop 1
        let inner ← wordParts fuel stop true 0 []
        -- all arguments in quotes are no field at all if there are none
        let bare := match inner with
          | [.param "@" none _ _ _] => true
          | _ => false
        wordParts fuel stop quotes depth (inner ++ if bare then acc else addEmpty acc)
      else if c = '"' && stop = .arith then
        drop 1
        wordParts fuel stop quotes depth acc
      else if c = '$' then
        drop 1
        let acc ← dollar fuel quotes acc
        wordParts fuel stop quotes depth acc
      else if c = '\x60' then
        drop 1
        let raw ← backquoted quotes (fuel + 1) []
        -- what stands behind a list that ended early is not looked at
        let body ← onText raw (commandList fuel false)
        wordParts fuel stop quotes depth (.command body quotes :: acc)
      else
        drop 1
        let depth := if stop = .arith then
            (if c = '(' then depth + 1 else if c = ')' then depth - 1 else depth) else depth
        wordParts fuel stop quotes depth (addLit acc c quotes)

/-- An expansion behind its dollar sign. -/
def dollar : (fuel : Nat) → (quotes : Bool) → (acc : List Part) → Parse (List Part)
  | 0, _, _ => syntaxFault "Unterminated quoted string"
  | fuel + 1, quotes, acc => do
    match ← peek 0 with
    | some '(' =>
      if (← peek 1) = some '(' then
        drop 2
        let expr ← wordParts fuel .arith false 0 []
        return .arith expr.reverse quotes :: acc
      else
        drop 1
        let body ← commandList fuel true
        skipBlanks
        match ← peek 0 with
        | some ')' =>
          drop 1
          return .command body quotes :: acc
        | _ => unexpectedHere (some ")")
    | some '\x7b' =>
      drop 1
      return (← braced fuel quotes) :: acc
    | some c =>
      if isNameStart c then
        let s ← get
        let name := s.rest.takeWhile isNameChar
        drop name.length
        return .param (String.ofList name) none false [] quotes :: acc
      else if isSpecialParam c then
        drop 1
        return .param (String.singleton c) none false [] quotes :: acc
      else return addLit acc '$' quotes
    | none => return addLit acc '$' quotes

/-- A parameter in braces, behind the opening one. A hash sign first asks for the length, unless it
is the parameter itself. -/
def braced : (fuel : Nat) → (quotes : Bool) → Parse Part
  | 0, _ => syntaxFault "Missing '\x7d'"
  | fuel + 1, quotes => do
    let s ← get
    match s.rest with
    | '#' :: '\x7d' :: _ =>
      drop 2
      return .param "#" none false [] quotes
    | '#' :: c :: _ =>
      if isNameStart c || isSpecialParam c then
        drop 1
        match ← paramName with
        | some name =>
          if (← peek 0) = some '\x7d' then
            drop 1
            return .param name (some .length) false [] quotes
          else withWord fuel quotes 0 name .invalid false
        | none => withWord fuel quotes 0 "" .invalid false
      else paramRest fuel quotes
    | _ => paramRest fuel quotes

/-- The word of an operation, behind `n` characters that name it. -/
def withWord : (fuel : Nat) → (quotes : Bool) → (n : Nat) → (name : String) → ParamOp →
    (colon : Bool) → Parse Part
  | 0, _, _, _, _, _ => syntaxFault "Missing '\x7d'"
  | fuel + 1, quotes, n, name, op, colon => do
    drop n
    let word ← wordParts fuel (if quotes then .quotedBrace else .brace) false 0 []
    let isTrim := match op with
      | .trimStart _ | .trimEnd _ => true
      | _ => false
    let word := if quotes && !isTrim then word.map quotePart else word
    return .param name (some op) colon word.reverse quotes

/-- The name and operation of a parameter in braces. -/
def paramRest : (fuel : Nat) → (quotes : Bool) → Parse Part
  | 0, _ => syntaxFault "Missing '\x7d'"
  | fuel + 1, quotes => do
    match ← paramName with
    | none => withWord fuel quotes 0 "" .invalid false
    | some name =>
      let s ← get
      match s.rest with
      | '\x7d' :: _ =>
        drop 1
        return .param name none false [] quotes
      | ':' :: '-' :: _ => withWord fuel quotes 2 name .default true
      | ':' :: '=' :: _ => withWord fuel quotes 2 name .assign true
      | ':' :: '?' :: _ => withWord fuel quotes 2 name .demand true
      | ':' :: '+' :: _ => withWord fuel quotes 2 name .alternative true
      | '-' :: _ => withWord fuel quotes 1 name .default false
      | '=' :: _ => withWord fuel quotes 1 name .assign false
      | '?' :: _ => withWord fuel quotes 1 name .demand false
      | '+' :: _ => withWord fuel quotes 1 name .alternative false
      | '#' :: '#' :: _ => withWord fuel quotes 2 name (.trimStart true) false
      | '#' :: _ => withWord fuel quotes 1 name (.trimStart false) false
      | '%' :: '%' :: _ => withWord fuel quotes 2 name (.trimEnd true) false
      | '%' :: _ => withWord fuel quotes 1 name (.trimEnd false) false
      | _ => withWord fuel quotes 0 name .invalid false

/-- A word, or none if an operator stands here. -/
def word : (fuel : Nat) → Parse (Option Word)
  | 0 => syntaxFault "Unterminated quoted string"
  | fuel + 1 => do
    skipBlanks
    match ← peek 0 with
    | none => return none
    | some c =>
      if isMeta c then return none
      else return some (← wordParts fuel .operator false 0 []).reverse

/-- Reads the here-documents that wait for the end of this line. -/
def readDocs : (fuel : Nat) → List Pending → Parse Unit
  | 0, _ => pure ()
  | fuel + 1, waiting => do
    match waiting with
    | [] => pure ()
    | p :: rest =>
      let s ← get
      let (body, behind, lines) :=
        hereLines p.delimiter.toList p.stripTabs (s.rest.length + 1) s.rest
      set { s with rest := behind, line := s.line + lines }
      let parts ←
        if p.quoted then pure [Part.lit (String.ofList body) true]
        else do
          let parts ← onText body (wordParts fuel .document true 0 [])
          pure parts.reverse
      modify fun s => { s with hereDocs := (p.id, parts) :: s.hereDocs }
      readDocs fuel rest

/-- Moves over blanks and line ends. -/
def skipNewlines : (fuel : Nat) → Parse Unit
  | 0 => pure ()
  | fuel + 1 => do
    skipBlanks
    if (← peek 0) = some '\n' then
      readDocs fuel (← lineEnd)
      skipNewlines fuel

/-- A redirection, if one stands here. -/
def redirection : (fuel : Nat) → Parse (Option Redir)
  | 0 => pure none
  | fuel + 1 => do
    skipBlanks
    let s ← get
    let digits := s.rest.takeWhile Char.isDigit
    match s.rest.drop digits.length with
    | c :: _ =>
      if (c = '<' ∨ c = '>') ∧ digits.length ≤ 1 then
        let fd := match digits with
          | d :: _ => d.toNat - 48
          | [] => if c = '<' then 0 else 1
        drop digits.length
        let target (n : Nat) (kind : RedirKind) : Parse (Option Redir) := do
          drop n
          skipBlanks
          -- a digit before another redirection belongs to that one
          match (← get).rest with
          | d :: '<' :: _ | d :: '>' :: _ =>
            if d.isDigit then syntaxFault "redirection unexpected" else pure ()
          | _ => pure ()
          match ← word fuel with
          | some w => return some (.mk fd kind w)
          | none => unexpectedHere none
        let document (n : Nat) (strip : Bool) : Parse (Option Redir) := do
          drop n
          match ← word fuel with
          | some w =>
            let s ← get
            let quoted := w.any fun
              | .lit _ q => q
              | _ => false
            let delimiter := String.join (w.map fun
              | .lit t _ => t
              | _ => "")
            set { s with
              pending := ⟨s.nextDoc, delimiter, strip, quoted⟩ :: s.pending
              nextDoc := s.nextDoc + 1 }
            return some (.hereDoc fd s.nextDoc)
          | none => unexpectedHere none
        let s ← get
        match s.rest with
        | '<' :: '<' :: '-' :: _ => document 3 true
        | '<' :: '<' :: _ => document 2 false
        | '<' :: '&' :: _ => target 2 .dup
        | '<' :: '>' :: _ => target 2 .readWrite
        | '<' :: _ => target 1 .input
        | '>' :: '>' :: _ => target 2 .append
        | '>' :: '&' :: _ => target 2 .dup
        | '>' :: '|' :: _ => target 2 .output
        | _ => target 1 .output
      else return none
    | [] => return none

/-- Redirections behind a compound command. -/
def redirections : (fuel : Nat) → Parse (List Redir)
  | 0 => pure []
  | fuel + 1 => do
    match ← redirection fuel with
    | some r => return r :: (← redirections fuel)
    | none => return []

/-- The parts of a simple command: assignments, words and redirections. -/
def simpleParts : (fuel : Nat) → List (String × Word) → List Word → List Redir → Nat → Parse Command
  | 0, _, _, _, _ => syntaxFault "Unterminated quoted string"
  | fuel + 1, assigns, words, redirs, line => do
    match ← redirection fuel with
    | some r => simpleParts fuel assigns words (r :: redirs) line
    | none =>
      let finish : Parse Command :=
        return .simple assigns.reverse words.reverse redirs.reverse line
      match ← peek 0 with
      | some '(' =>
        -- a function definition: a name, and nothing between the parentheses
        match assigns, words, redirs with
        | [], [w], [] =>
          drop 1
          skipBlanks
          if (← peek 0) ≠ some ')' then unexpectedHere (some ")")
          else
            drop 1
            match plainText? w with
            | some name =>
              if !isName name.toList then syntaxFault "Bad function name"
              else
                skipNewlines fuel
                return .function name (← command fuel)
            | none => syntaxFault "Bad function name"
        | _, _, _ => finish
      | _ =>
        match ← word fuel with
        | none => finish
        | some w =>
          match words, splitAssign w with
          | [], some (name, value) => simpleParts fuel ((name, value) :: assigns) words redirs line
          | _, _ => simpleParts fuel assigns (w :: words) redirs line

/-- A command of any kind, without what joins commands. -/
def command : (fuel : Nat) → Parse Command
  | 0 => syntaxFault "Unterminated quoted string"
  | fuel + 1 => do
    skipBlanks
    let s ← get
    match s.rest with
    | '(' :: _ =>
      drop 1
      let body ← commandList fuel true
      skipBlanks
      match ← peek 0 with
      | some ')' =>
        drop 1
        return .subshell body (← redirections fuel)
      | _ => unexpectedHere (some ")")
    | _ =>
      match ← reservedHere with
      | some "\x7b" =>
        drop 1
        let body ← commandList fuel true
        expect "\x7d"
        return .group body (← redirections fuel)
      | some "if" =>
        drop 2
        conditional fuel
      | some "while" =>
        drop 5
        let test ← commandList fuel true
        expect "do"
        let body ← commandList fuel true
        expect "done"
        return .loop false test body (← redirections fuel)
      | some "until" =>
        drop 5
        let test ← commandList fuel true
        expect "do"
        let body ← commandList fuel true
        expect "done"
        return .loop true test body (← redirections fuel)
      | some "for" =>
        drop 3
        forLoop fuel
      | some "case" =>
        drop 4
        caseCommand fuel
      | some "!" => unexpectedHere none
      | some _ => unexpectedHere none
      | none =>
        let line := s.line
        let c ← simpleParts fuel [] [] [] line
        match c with
        | .simple [] [] [] _ => unexpectedHere none
        | c => return c

/-- A conditional behind `if` or `elif`. -/
def conditional : (fuel : Nat) → Parse Command
  | 0 => syntaxFault "Unterminated quoted string"
  | fuel + 1 => do
    let test ← commandList fuel true
    expect "then"
    let body ← commandList fuel true
    skipBlanks
    match ← reservedHere with
    | some "elif" =>
      drop 4
      let other ← conditional fuel
      return .cond test body (some other) []
    | some "else" =>
      drop 4
      let other ← commandList fuel true
      expect "fi"
      return .cond test body (some other) (← redirections fuel)
    | _ =>
      expect "fi"
      return .cond test body none (← redirections fuel)

/-- A loop over words behind `for`. -/
def forLoop : (fuel : Nat) → Parse Command
  | 0 => syntaxFault "Unterminated quoted string"
  | fuel + 1 => do
    match ← word fuel with
    | none => syntaxFault "Bad for loop variable"
    | some w =>
      match plainText? w with
      | none => syntaxFault "Bad for loop variable"
      | some name =>
        if !isName name.toList then syntaxFault "Bad for loop variable"
        else
          skipNewlines fuel
          let words ← match ← reservedHere with
            | some "in" => do
              drop 2
              let ws ← forWords fuel []
              skipBlanks
              match ← peek 0 with
              | some ';' => drop 1
              | some '\n' => pure ()
              | _ => unexpectedHere none
              pure (some ws)
            | _ => do
              if (← peek 0) = some ';' && (← peek 1) ≠ some ';' then drop 1
              pure none
          skipNewlines fuel
          expect "do"
          let body ← commandList fuel true
          expect "done"
          return .forEach name words body (← redirections fuel)

def forWords : (fuel : Nat) → List Word → Parse (List Word)
  | 0, acc => return acc.reverse
  | fuel + 1, acc => do
    match ← word fuel with
    | some w => forWords fuel (w :: acc)
    | none => return acc.reverse

/-- A choice by patterns behind `case`. -/
def caseCommand : (fuel : Nat) → Parse Command
  | 0 => syntaxFault "Unterminated quoted string"
  | fuel + 1 => do
    match ← word fuel with
    | none => unexpectedHere (some "word")
    | some subject =>
      skipNewlines fuel
      expect "in"
      let arms ← caseArms fuel []
      return .case subject arms (← redirections fuel)

def caseArms : (fuel : Nat) → List (List Word × Command) → Parse (List (List Word × Command))
  | 0, _ => syntaxFault "Unterminated quoted string"
  | fuel + 1, acc => do
    skipNewlines fuel
    if (← reservedHere) = some "esac" then
      drop 4
      return acc.reverse
    else
      skipBlanks
      if (← peek 0) = some '(' then drop 1
      let patterns ← casePatterns fuel []
      let body ← commandList fuel true
      skipBlanks
      if ← looksAt ";;" then
        drop 2
        caseArms fuel ((patterns, body) :: acc)
      else if (← reservedHere) = some "esac" then
        drop 4
        return ((patterns, body) :: acc).reverse
      else unexpectedHere (some ";;")

def casePatterns : (fuel : Nat) → List Word → Parse (List Word)
  | 0, _ => syntaxFault "Unterminated quoted string"
  | fuel + 1, acc => do
    match ← word fuel with
    | none => unexpectedHere (if (← peek 0).isNone then some ")" else none)
    | some w =>
      skipBlanks
      match ← take1 with
      | some '|' => casePatterns fuel (w :: acc)
      | some ')' => return (w :: acc).reverse
      | some c =>
        modify fun s => { s with rest := c :: s.rest, line := if c = '\n' then s.line - 1 else s.line }
        unexpectedHere (some ")")
      | none => unexpectedHere (some ")")

/-- Commands joined by pipes. -/
def pipeline : (fuel : Nat) → Parse Command
  | 0 => syntaxFault "Unterminated quoted string"
  | fuel + 1 => do
    skipBlanks
    if (← reservedHere) = some "!" then
      drop 1
      let stages ← stages fuel []
      return .pipeline true stages
    else
      match ← stages fuel [] with
      | [c] => return c
      | cs => return .pipeline false cs

def stages : (fuel : Nat) → List Command → Parse (List Command)
  | 0, _ => syntaxFault "Unterminated quoted string"
  | fuel + 1, acc => do
    let c ← command fuel
    skipBlanks
    let s ← get
    match s.rest with
    | '|' :: '|' :: _ => return (c :: acc).reverse
    | '|' :: _ =>
      drop 1
      skipNewlines fuel
      stages fuel (c :: acc)
    | _ => return (c :: acc).reverse

/-- Pipelines joined by `&&` and `||`. -/
def andOr : (fuel : Nat) → Parse Command
  | 0 => syntaxFault "Unterminated quoted string"
  | fuel + 1 => do
    let first ← pipeline fuel
    andOrRest fuel first

def andOrRest : (fuel : Nat) → Command → Parse Command
  | 0, _ => syntaxFault "Unterminated quoted string"
  | fuel + 1, left => do
    skipBlanks
    if ← looksAt "&&" then
      drop 2
      skipNewlines fuel
      let right ← pipeline fuel
      andOrRest fuel (.andThen left right)
    else if ← looksAt "||" then
      drop 2
      skipNewlines fuel
      let right ← pipeline fuel
      andOrRest fuel (.orElse left right)
    else return left

/-- Commands over any number of lines, up to where the list ends. With `needed` there has to be a
command. -/
def commandList : (fuel : Nat) → (needed : Bool) → Parse Command
  | 0, _ => syntaxFault "Unterminated quoted string"
  | fuel + 1, needed => do
    skipNewlines fuel
    if ← listEnds then
      if needed then
        match ← peek 0 with
        | some ')' => return .skip
        | some ';' => return .skip
        | some _ =>
          if (← reservedHere) = some "esac" then return .skip else unexpectedHere none
        | none => return .skip
      else return .skip
    else
      let c ← andOr fuel
      listRest fuel c

def listRest : (fuel : Nat) → Command → Parse Command
  | 0, _ => syntaxFault "Unterminated quoted string"
  | fuel + 1, left => do
    skipBlanks
    let s ← get
    match s.rest with
    | ';' :: ';' :: _ => return left
    | ';' :: _ =>
      drop 1
      continueList fuel left
    | '&' :: _ =>
      drop 1
      continueList fuel (.background left)
    | '\n' :: _ => continueList fuel left
    | _ => return left

def continueList : (fuel : Nat) → Command → Parse Command
  | 0, _ => syntaxFault "Unterminated quoted string"
  | fuel + 1, left => do
    skipNewlines fuel
    if ← listEnds then return left
    else
      let right ← andOr fuel
      listRest fuel (.seq left right)

/-- The commands of one line. -/
def lineRest : (fuel : Nat) → Command → Parse Command
  | 0, _ => syntaxFault "Unterminated quoted string"
  | fuel + 1, left => do
    skipBlanks
    let s ← get
    let more (left : Command) : Parse Command := do
      drop 1
      skipBlanks
      match ← peek 0 with
      | none => return left
      | some '\n' =>
        readDocs fuel (← lineEnd)
        return left
      | some _ =>
        let right ← andOr fuel
        lineRest fuel (.seq left right)
    match s.rest with
    | [] => return left
    | '\n' :: _ =>
      readDocs fuel (← lineEnd)
      return left
    | ';' :: ';' :: _ => unexpectedHere none
    | ';' :: _ => more left
    | '&' :: _ => more (.background left)
    | _ => unexpectedHere none

end

/-- The next line of commands, or none at the end of the script. -/
def nextLine (s : Source) : Except SyntaxFault (Option Command × Source) :=
  let fuel := 8 * s.rest.length + 40
  let p : Parse (Option Command) := do
    skipNewlines fuel
    if (← peek 0).isNone then return none
    else
      let c ← andOr fuel
      return some (← lineRest fuel c)
  p s

end DeltaDebug.Shell
