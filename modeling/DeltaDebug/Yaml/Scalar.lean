import DeltaDebug.Yaml.Cursor

/-
  Scalars of YAML texts in their four written forms. Each reader takes the place where the scalar
  starts and gives its text with the place behind it, or nothing if it is malformed.
-/

namespace DeltaDebug.Yaml

/-- White space between two parts of a flowing scalar: blanks within a line, or line ends. -/
structure Gap where
  blanks : List Char := []
  /-- Whether a line end has been seen. -/
  broken : Bool := false
  firstBreak : List Char := []
  otherBreaks : List Char := []

/-- What a gap stands for in the scalar: a single line end becomes a space, several lose the
first. -/
def Gap.text (g : Gap) : List Char :=
  if g.broken then
    if g.firstBreak = ['\n'] then (if g.otherBreaks = [] then [' '] else g.otherBreaks)
    else g.firstBreak ++ g.otherBreaks
  else g.blanks

/-- Reads blanks and line ends. `tabLimit` is the column up to which a tab may not stand at the
start of a line. -/
def readGap (tabLimit : Nat) : (fuel : Nat) → Gap → Cursor → Option (Gap × Cursor)
  | 0, _, _ => none
  | fuel + 1, g, c =>
    match c.peek 0 with
    | none => some (g, c)
    | some x =>
      if isBlank x then
        if g.broken && x = '\t' && c.column < tabLimit then none
        else
          let g := if g.broken then g else { g with blanks := g.blanks ++ [x] }
          readGap tabLimit fuel g c.skip
      else if isBreak x then
        let g := if g.broken then { g with otherBreaks := g.otherBreaks ++ c.lineBreak }
          else { g with blanks := [], broken := true, firstBreak := c.lineBreak }
        readGap tabLimit fuel g c.skipLine
      else some (g, c)

/-! ## Plain scalars -/

def isFlowIndicator (x : Char) : Bool :=
  x = ',' || x = '[' || x = ']' || x = '\x7b' || x = '\x7d'

/-- The characters of a plain scalar up to a blank, a line end or an indicator. -/
def plainRun (flow : Bool) : (fuel : Nat) → (acc : List Char) → Cursor →
    Option (List Char × Cursor)
  | 0, _, _ => none
  | fuel + 1, acc, c =>
    match c.peek 0 with
    | none => some (acc, c)
    | some x =>
      if isBlank x || isBreak x then some (acc, c)
      else if flow && x = ':' && (c.peek 1).any (fun y => isFlowIndicator y || y = '?') then none
      else if x = ':' && c.blankOrEndAt 1 then some (acc, c)
      else if flow && isFlowIndicator x then some (acc, c)
      else plainRun flow fuel (acc ++ [x]) c.skip

/-- The rest of a plain scalar. `text` is what was read, `gap` the white space behind it; lines
have to be indented by `indent`. -/
def plainRest (flow : Bool) (indent : Nat) : (fuel : Nat) → (text : List Char) → (gap : Gap) →
    Cursor → Option (List Char × Bool × Cursor)
  | 0, _, _, _ => none
  | fuel + 1, text, gap, c =>
    if c.documentMark '-' || c.documentMark '.' || c.at? 0 '#' then some (text, gap.broken, c)
    else
      match plainRun flow fuel [] c with
      | none => none
      | some ([], c) => some (text, gap.broken, c)
      | some (run, c) =>
        let text := text ++ gap.text ++ run
        if c.atBlank || c.atBreak then
          match readGap indent (c.rest.length + 1) {} c with
          | none => none
          | some (gap, c) =>
            if !flow && c.column < indent then some (text, gap.broken, c)
            else plainRest flow indent fuel text gap c
        else some (text, false, c)

/-- A plain scalar; also tells whether it was followed by a line end. -/
def plainScalar (flow : Bool) (indent : Nat) (c : Cursor) : Option (String × Bool × Cursor) :=
  (plainRest flow indent (c.rest.length + 2) [] {} c).map fun (text, broken, c) =>
    (String.ofList text, broken, c)

/-! ## Quoted scalars -/

def hexDigit? (c : Char) : Option Nat :=
  if c.isDigit then some (c.toNat - 48)
  else if 'a' ≤ c ∧ c ≤ 'f' then some (c.toNat - 87)
  else if 'A' ≤ c ∧ c ≤ 'F' then some (c.toNat - 55)
  else none

/-- A number of exactly so many hexadecimal digits. -/
def hexDigits : (n acc : Nat) → List Char → Option Nat
  | 0, acc, _ => some acc
  | n + 1, acc, c :: rest => (hexDigit? c).bind fun d => hexDigits n (16 * acc + d) rest
  | _ + 1, _, [] => none

/-- The character that a letter behind a backslash stands for. -/
def simpleEscape : Char → Option Char
  | '0' => some '\x00'
  | 'a' => some '\x07'
  | 'b' => some '\x08'
  | 't' => some '\t'
  | '\t' => some '\t'
  | 'n' => some '\n'
  | 'v' => some '\x0b'
  | 'f' => some '\x0c'
  | 'r' => some '\r'
  | 'e' => some '\x1b'
  | ' ' => some ' '
  | '"' => some '"'
  | '/' => some '/'
  | '\\' => some '\\'
  | 'N' => some (Char.ofNat 0x85)
  | '_' => some (Char.ofNat 0xa0)
  | 'L' => some (Char.ofNat 0x2028)
  | 'P' => some (Char.ofNat 0x2029)
  | _ => none

/-- An escape at its backslash: the character and how long the escape is. -/
def escape (c : Cursor) : Option (Char × Nat) := do
  let x ← c.peek 1
  match simpleEscape x with
  | some y => return (y, 2)
  | none =>
    let width ← match x with
      | 'x' => some 2
      | 'u' => some 4
      | 'U' => some 8
      | _ => none
    let n ← hexDigits width 0 (c.rest.drop 2)
    if n.isValidChar then return (Char.ofNat n, 2 + width) else none

/-- The characters of a quoted scalar up to white space or the closing quote. The flag tells
whether an escaped line end was passed. -/
def quotedRun (single : Bool) : (fuel : Nat) → (acc : List Char) → Cursor →
    Option (List Char × Bool × Cursor)
  | 0, _, _ => none
  | fuel + 1, acc, c =>
    match c.peek 0 with
    | none => some (acc, false, c)
    | some x =>
      if isBlank x || isBreak x then some (acc, false, c)
      else if single && x = '\'' then
        if c.at? 1 '\'' then quotedRun single fuel (acc ++ ['\'']) (c.skipMany 2)
        else some (acc, false, c)
      else if !single && x = '"' then some (acc, false, c)
      else if !single && x = '\\' then
        if (c.peek 1).any isBreak then some (acc, true, c.skip.skipLine)
        else
          match escape c with
          | none => none
          | some (y, len) => quotedRun single fuel (acc ++ [y]) (c.skipMany len)
      else quotedRun single fuel (acc ++ [x]) c.skip

/-- The rest of a quoted scalar behind its opening quote. -/
def quotedRest (single : Bool) : (fuel : Nat) → (text : List Char) → Cursor →
    Option (List Char × Cursor)
  | 0, _, _ => none
  | fuel + 1, text, c =>
    if c.documentMark '-' || c.documentMark '.' || c.rest = [] then none
    else
      match quotedRun single (c.rest.length + 1) [] c with
      | none => none
      | some (run, broken, c) =>
        let text := text ++ run
        if c.at? 0 (if single then '\'' else '"') then some (text, c.skip)
        else
          match readGap 0 (c.rest.length + 1) { broken := broken } c with
          | none => none
          | some (gap, c) => quotedRest single fuel (text ++ gap.text) c

/-- A quoted scalar at its opening quote. -/
def quotedScalar (single : Bool) (c : Cursor) : Option (String × Cursor) :=
  (quotedRest single (c.rest.length + 1) [] c.skip).map fun (text, c) => (String.ofList text, c)

/-! ## Block scalars -/

/-- What happens to the line ends at the end of a block scalar. -/
inductive Chomping where
  | strip
  | clip
  | keep
deriving DecidableEq

/-- The header of a block scalar behind its indicator: how much to indent, if it says so, and what
to do with the last line ends. -/
def blockHeader (c : Cursor) : Option (Chomping × Option Nat × Cursor) :=
  let chomping (c : Cursor) : Option (Chomping × Cursor) :=
    if c.at? 0 '+' then some (.keep, c.skip) else if c.at? 0 '-' then some (.strip, c.skip) else none
  let digit (c : Cursor) : Option (Nat × Cursor) :=
    match c.peek 0 with
    | some x => if x.isDigit then some (x.toNat - 48, c.skip) else none
    | none => none
  let (chomp, indent, c) : Chomping × Option Nat × Cursor := match chomping c with
    | some (k, c) =>
      match digit c with
      | some (n, c) => (k, some n, c)
      | none => (k, none, c)
    | none =>
      match digit c with
      | some (n, c) =>
        match chomping c with
        | some (k, c) => (k, some n, c)
        | none => (.clip, some n, c)
      | none => (.clip, none, c)
  if indent = some 0 then none
  else
    let c := c.skipWhile isBlank
    let c := if c.at? 0 '#' then c.skipWhile (!isBreak ·) else c
    if c.atBreakOrEnd then some (chomp, indent, c.skipLine) else none

/-- Empty lines of a block scalar. `indent` is its indentation, or 0 while that is not known, and
`deepest` the deepest indentation so far. -/
def blockBreaks : (fuel : Nat) → (indent deepest : Nat) → (acc : List Char) → Cursor →
    Option (Nat × List Char × Cursor)
  | 0, _, _, _, _ => none
  | fuel + 1, indent, deepest, acc, c =>
    let spaces := (c.rest.takeWhile (· = ' ')).length
    let c := c.skipMany (if indent = 0 then spaces else min spaces (indent - c.column))
    let deepest := max deepest c.column
    if (indent = 0 || c.column < indent) && c.at? 0 '\t' then none
    else if c.atBreak then blockBreaks fuel indent deepest (acc ++ c.lineBreak) c.skipLine
    else some (deepest, acc, c)

/-- The lines of a block scalar. `lead` is the line end before the present line, `breaks` the
empty lines before it, and `blankLead` says that the line before started with a blank. -/
def blockLines (literal : Bool) (indent : Nat) : (fuel : Nat) → (text lead breaks : List Char) →
    (blankLead : Bool) → Cursor → Option (List Char × List Char × List Char × Cursor)
  | 0, _, _, _, _, _ => none
  | fuel + 1, text, lead, breaks, blankLead, c =>
    if c.column = indent && c.rest ≠ [] then
      let blank := c.atBlank
      let text :=
        if !literal && lead = ['\n'] && !blankLead && !blank then
          text ++ (if breaks = [] then [' '] else []) ++ breaks
        else text ++ lead ++ breaks
      let line := c.rest.takeWhile (!isBreak ·)
      let c := c.skipMany line.length
      let lead := c.lineBreak
      let c := c.skipLine
      match blockBreaks (c.rest.length + 1) indent 0 [] c with
      | none => none
      | some (_, breaks, c) => blockLines literal indent fuel (text ++ line) lead breaks blank c
    else some (text, lead, breaks, c)

/-- A block scalar at its indicator, inside a block that is indented by `parent`. -/
def blockScalar (literal : Bool) (parent : Int) (c : Cursor) : Option (String × Cursor) := do
  let (chomp, increment, c) ← blockHeader c.skip
  let known : Nat := match increment with
    | some n => if 0 ≤ parent then parent.toNat + n else n
    | none => 0
  let (deepest, breaks, c) ← blockBreaks (c.rest.length + 1) known 0 [] c
  let indent := if known = 0 then max (max deepest (parent + 1).toNat) 1 else known
  let (text, lead, breaks, c) ← blockLines literal indent (c.rest.length + 2) [] [] breaks false c
  let text := if chomp = .strip then text else text ++ lead
  let text := if chomp = .keep then text ++ breaks else text
  return (String.ofList text, c)

end DeltaDebug.Yaml
