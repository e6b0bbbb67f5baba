import DeltaDebug.Yaml.Scalar
import DeltaDebug.Yaml.Token

/-
  YAML texts to tokens. A key of a block mapping is only known by the colon behind it, so the
  places where a key may have started are remembered, and the marks of keys and mappings are put
  in front of tokens that are already there.
-/

namespace DeltaDebug.Yaml

/-- A place where a key may have started. -/
structure KeyPlace where
  /-- A key has to start here, as nothing else can stand at this indentation. -/
  required : Bool
  /-- How many tokens came before. -/
  token : Nat
  index : Nat
  line : Nat
  column : Nat

/-- The state of the lexer. -/
structure Lexer where
  cursor : Cursor
  tokens : Array Token := #[]
  /-- The indentation of the innermost block collection, -1 outside of all. -/
  indent : Int := -1
  /-- The indentations of the collections around it. -/
  indents : List Int := []
  /-- The possible key of each level of brackets, innermost first. -/
  keys : List (Option KeyPlace) := [none]
  /-- Whether a key may start here. -/
  keyAllowed : Bool := true

namespace Lexer

/-- How many brackets are open. -/
def flowLevel (s : Lexer) : Nat := s.keys.length - 1

def inFlow (s : Lexer) : Bool := 0 < s.flowLevel

def push (s : Lexer) (t : Token) : Lexer := { s with tokens := s.tokens.push t }

/-- Puts a token in front of those from number `n` on. -/
def insertAt (s : Lexer) (n : Nat) (t : Token) : Lexer :=
  { s with tokens := (s.tokens.extract 0 n).push t ++ s.tokens.extract n s.tokens.size }

/-- Opens a block collection at a column that is deeper than the present indentation. -/
def roll (s : Lexer) (column : Nat) (place : Option Nat) (t : Token) : Lexer :=
  if s.inFlow then s
  else if s.indent < column then
    let s := match place with
      | some n => s.insertAt n t
      | none => s.push t
    { s with indents := s.indent :: s.indents, indent := column }
  else s

/-- Closes the block collections that are indented deeper than `column`. -/
def unrollFrom (s : Lexer) (column : Int) : List Int → Lexer
  | [] => s
  | outer :: rest =>
    if column < s.indent then
      unrollFrom { s.push .blockEnd with indent := outer, indents := rest } column rest
    else s

def unroll (s : Lexer) (column : Int) : Lexer :=
  if s.inFlow then s else s.unrollFrom column s.indents

/-- Gives up the possible key of the innermost level; fails if there has to be one. -/
def dropKey (s : Lexer) : Option Lexer :=
  match s.keys with
  | some k :: rest => if k.required then none else some { s with keys := none :: rest }
  | _ => some s

/-- Remembers that a key may start here. -/
def saveKey (s : Lexer) : Option Lexer :=
  if s.keyAllowed then do
    let c := s.cursor
    let place : KeyPlace :=
      { required := !s.inFlow && s.indent = c.column
        token := s.tokens.size, index := c.index, line := c.line, column := c.column }
    let s ← s.dropKey
    return { s with keys := some place :: s.keys.tail }
  else some s

/-- How far behind its start the colon of a key may stand. -/
def keyReach : Nat := 1024

/-- Gives up keys that are on an earlier line or too far back; fails if one has to be there. -/
def dropStaleKeys (s : Lexer) : Option Lexer := do
  let keys ← s.keys.mapM fun
    | none => some none
    | some k =>
      if k.line < s.cursor.line || k.index + keyReach < s.cursor.index then
        if k.required then none else some none
      else some (some k)
  return { s with keys := keys }

/-- Moves over blanks, comments and line ends. A tab is no blank where a key may start. -/
def skipBlanks : (fuel : Nat) → Lexer → Lexer
  | 0, s => s
  | fuel + 1, s =>
    let tabs := s.inFlow || !s.keyAllowed
    let c := s.cursor.skipWhile fun x => x = ' ' || (tabs && x = '\t')
    let c := if c.at? 0 '#' then c.skipWhile (!isBreak ·) else c
    if c.atBreak then
      skipBlanks fuel { s with cursor := c.skipLine, keyAllowed := s.keyAllowed || !s.inFlow }
    else { s with cursor := c }

/-- Takes one character as a token. -/
def single (s : Lexer) (t : Token) : Lexer := { s with cursor := s.cursor.skip }.push t

/-! ## Directives, anchors and tags -/

def isUriChar (uri : Bool) (x : Char) : Bool :=
  isWord x || ";/?:@&=+$.%!~*'()".toList.contains x || (uri && (x = ',' || x = '[' || x = ']'))

/-- The text of a uri; percent signs stand before the bytes of characters. -/
def unescapeUri : (fuel : Nat) → (acc : ByteArray) → List Char → Option String
  | 0, _, _ => none
  | _, acc, [] => String.fromUTF8? acc
  | fuel + 1, acc, '%' :: a :: b :: rest => do
    unescapeUri fuel (acc.push ((← hexDigit? a) * 16 + (← hexDigit? b)).toUInt8) rest
  | _, _, '%' :: _ => none
  | fuel + 1, acc, c :: rest => unescapeUri fuel (acc ++ (String.singleton c).toUTF8) rest

/-- A uri here; `uri` says that it may hold commas and square brackets. -/
def uri (uri : Bool) (c : Cursor) : Option (String × Cursor) := do
  let chars := c.rest.takeWhile (isUriChar uri)
  let text ← unescapeUri (chars.length + 1) .empty chars
  return (text, c.skipMany chars.length)

/-- A handle here: exclamation marks around a word that may be missing, or one mark and a word. -/
def tagHandle (c : Cursor) : Option (List Char × Cursor) :=
  match c.rest with
  | '!' :: rest =>
    let word := rest.takeWhile isWord
    let c := c.skipMany (word.length + 1)
    if c.at? 0 '!' then some ('!' :: word ++ ['!'], c.skip) else some ('!' :: word, c)
  | _ => none

def tagToken (flow : Bool) (c : Cursor) : Option (Token × Cursor) := do
  let (t, c) ←
    if c.at? 1 '<' then do
      let (suffix, c) ← uri true (c.skipMany 2)
      if suffix ≠ "" && c.at? 0 '>' then some (Token.tag "" suffix, c.skip) else none
    else do
      let (handle, c) ← tagHandle c
      if 2 ≤ handle.length ∧ handle.getLast? = some '!' then
        let (suffix, c) ← uri false c
        if suffix = "" then none else some (Token.tag (String.ofList handle) suffix, c)
      else
        let (more, c) ← uri false c
        let suffix := String.ofList (handle.drop 1) ++ more
        some (if suffix = "" then Token.tag "" "!" else Token.tag "!" suffix, c)
  if (flow && c.at? 0 ',') || c.blankOrEndAt 0 then some (t, c) else none

/-- The name of an anchor or alias behind its sign. -/
def anchorName (c : Cursor) : Option (String × Cursor) :=
  let name := c.rest.takeWhile isWord
  let c := c.skipMany name.length
  let ends := c.blankOrEndAt 0 || (c.peek 0).any fun x => "?:,]\x7d%@`".toList.contains x
  if name ≠ [] && ends then some (String.ofList name, c) else none

/-- A number of a version, at most nine digits long. -/
def versionNumber (c : Cursor) : Option (Nat × Cursor) :=
  let digits := c.rest.takeWhile Char.isDigit
  if digits = [] ∨ 9 < digits.length then none
  else some (digits.foldl (fun n d => 10 * n + (d.toNat - 48)) 0, c.skipMany digits.length)

/-- A directive behind its percent sign. -/
def directive (c : Cursor) : Option (Token × Cursor) := do
  let name := c.rest.takeWhile isWord
  let c := c.skipMany name.length
  if !c.blankOrEndAt 0 then none
  else
    let c := c.skipWhile isBlank
    let (t, c) ← match String.ofList name with
      | "YAML" => do
        let (major, c) ← versionNumber c
        if !c.at? 0 '.' then none
        else
          let (minor, c) ← versionNumber c.skip
          pure (Token.versionDirective major minor, c)
      | "TAG" => do
        let (handle, c) ← tagHandle c
        if handle ≠ ['!'] ∧ (handle.length < 2 ∨ handle.getLast? ≠ some '!') then none
        else if !c.atBlank then none
        else
          let (value, c) ← uri true (c.skipWhile isBlank)
          if value = "" ∨ !c.blankOrEndAt 0 then none
          else pure (Token.tagDirective (String.ofList handle) value, c)
      | _ => none
    let c := c.skipWhile isBlank
    let c := if c.at? 0 '#' then c.skipWhile (!isBreak ·) else c
    if c.atBreakOrEnd then some (t, c.skipLine) else none

/-! ## The next token -/

/-- Closes all blocks before a directive, a document mark or the end. -/
def closeAll (s : Lexer) : Option Lexer := do
  let s ← (s.unroll (-1)).dropKey
  return { s with keyAllowed := false }

def flowOpen (s : Lexer) (t : Token) : Option Lexer := do
  let s ← s.saveKey
  return { s.single t with keys := none :: s.keys, keyAllowed := true }

def flowClose (s : Lexer) (t : Token) : Option Lexer := do
  let s ← s.dropKey
  return { s.single t with
    keys := if 1 < s.keys.length then s.keys.tail else s.keys, keyAllowed := false }

def flowNext (s : Lexer) : Option Lexer := do
  let s ← s.dropKey
  return { s.single .flowEntry with keyAllowed := true }

/-- A dash of a block sequence. -/
def entry (s : Lexer) : Option Lexer := do
  if !s.inFlow && !s.keyAllowed then none
  else
    let s ← (s.roll s.cursor.column none .blockSequenceStart).dropKey
    return { s.single .blockEntry with keyAllowed := true }

/-- A question mark before a key. -/
def keyMark (s : Lexer) : Option Lexer := do
  if !s.inFlow && !s.keyAllowed then none
  else
    let s ← (s.roll s.cursor.column none .blockMappingStart).dropKey
    return { s.single .key with keyAllowed := !s.inFlow }

/-- A colon behind a key. -/
def valueMark (s : Lexer) : Option Lexer :=
  match s.keys with
  | some k :: rest =>
    let s := { s with keys := none :: rest }
    let s := (s.insertAt k.token .key).roll k.column (some k.token) .blockMappingStart
    some { s.single .value with keyAllowed := false }
  | _ =>
    if !s.inFlow && !s.keyAllowed then none
    else
      let s := s.roll s.cursor.column none .blockMappingStart
      some { s.single .value with keyAllowed := !s.inFlow }

/-- A token that may be, or start, a key. -/
def keyLike (s : Lexer) (read : Cursor → Option (Token × Cursor)) : Option Lexer := do
  let s ← s.saveKey
  let (t, c) ← read s.cursor
  return { s.push t with cursor := c, keyAllowed := false }

def block (s : Lexer) (literal : Bool) : Option Lexer := do
  let s ← s.dropKey
  let (text, c) ← blockScalar literal s.indent s.cursor
  return { s.push (.scalar text (if literal then .literal else .folded)) with
    cursor := c, keyAllowed := true }

def plain (s : Lexer) : Option Lexer := do
  let s ← s.saveKey
  let (text, broken, c) ← plainScalar s.inFlow (s.indent + 1).toNat s.cursor
  return { s.push (.scalar text .plain) with cursor := c, keyAllowed := broken }

/-- The characters that start no plain scalar. -/
def isIndicator (x : Char) : Bool :=
  "-?:,[]\x7b\x7d#&*!|>'\"%@`".toList.contains x

/-- The next token, at its first character. -/
def next (s : Lexer) (x : Char) : Option Lexer :=
  let c := s.cursor
  if c.column = 0 && x = '%' then do
    let s ← s.closeAll
    let (t, c) ← directive c.skip
    return { s.push t with cursor := c }
  else if c.documentMark '-' then do
    let s ← s.closeAll
    return { s.push .documentStart with cursor := c.skipMany 3 }
  else if c.documentMark '.' then do
    let s ← s.closeAll
    return { s.push .documentEnd with cursor := c.skipMany 3 }
  else if x = '[' then s.flowOpen .flowSequenceStart
  else if x = '\x7b' then s.flowOpen .flowMappingStart
  else if x = ']' then s.flowClose .flowSequenceEnd
  else if x = '\x7d' then s.flowClose .flowMappingEnd
  else if x = ',' then s.flowNext
  else if x = '-' && c.blankOrEndAt 1 then s.entry
  else if x = '?' && (s.inFlow || c.blankOrEndAt 1) then s.keyMark
  else if x = ':' && (s.inFlow || c.blankOrEndAt 1) then s.valueMark
  else if x = '*' then
    s.keyLike fun c => (anchorName c.skip).map fun (n, c) => (.alias n, c)
  else if x = '&' then
    s.keyLike fun c => (anchorName c.skip).map fun (n, c) => (.anchor n, c)
  else if x = '!' then s.keyLike (tagToken s.inFlow)
  else if x = '|' && !s.inFlow then s.block true
  else if x = '>' && !s.inFlow then s.block false
  else if x = '\'' then
    s.keyLike fun c => (quotedScalar true c).map fun (t, c) => (.scalar t .quoted, c)
  else if x = '"' then
    s.keyLike fun c => (quotedScalar false c).map fun (t, c) => (.scalar t .quoted, c)
  else if !isIndicator x || (x = '-' && !(c.peek 1).any isBlank)
      || (!s.inFlow && (x = '?' || x = ':') && !c.blankOrEndAt 1) then s.plain
  else none

/-- Tokens up to the end of the text. -/
def run : (fuel : Nat) → Lexer → Option (List Token)
  | 0, _ => none
  | fuel + 1, s => do
    let s := skipBlanks (s.cursor.rest.length + 1) s
    let s ← s.dropStaleKeys
    let s := s.unroll s.cursor.column
    match s.cursor.peek 0 with
    | none =>
      let s ← s.closeAll
      return (s.push .streamEnd).tokens.toList
    | some x => run fuel (← s.next x)

end Lexer

/-- The tokens of a text; a byte order mark in front of it is skipped. -/
def tokens (text : String) : Option (List Token) :=
  let cs := match text.toList with
    | '\ufeff' :: rest => rest
    | cs => cs
  if cs.all isAllowed then Lexer.run (2 * cs.length + 2) { cursor := { rest := cs } } else none

end DeltaDebug.Yaml
