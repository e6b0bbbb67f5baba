import DeltaDebug.Regex.Class

/-
  The written form of regular expressions: alternatives, groups with switches, repetitions,
  classes with set operations, and escapes. There are no back references and no look-around.
-/

namespace DeltaDebug.Regex

/-- Blanks that extended patterns skip. -/
def isSpace (c : Char) : Bool := Text.whiteSpace.contains c.toNat

/-- Skips blanks and comments; `comment` says that a comment is open. -/
def skipExtended : (comment : Bool) → List Char → List Char
  | _, [] => []
  | true, c :: rest => skipExtended (c ≠ '\n') rest
  | false, c :: rest =>
    if isSpace c then skipExtended false rest
    else if c = '#' then skipExtended true rest
    else c :: rest

/-- Skips blanks and comments if the pattern is extended. -/
def Flags.skip (f : Flags) (cs : List Char) : List Char :=
  if f.extended then skipExtended false cs else cs

/-- What an escape or a plain character stands for. -/
inductive Atom where
  /-- A character; `byte` if it was written as two hexadecimal digits. -/
  | literal (c : Char) (byte : Bool)
  /-- A class, without its case variants. -/
  | set (s : CodeSet)
  | look (l : Look)

def isMeta (c : Char) : Bool := "\\.+*?()|[]\x7b\x7d^$#&-~".toList.contains c

/-- Whether a backslash may stand before the character although it changes nothing. -/
def isEscapable (c : Char) : Bool :=
  isMeta c || (c.toNat < 128 && !c.isAlphanum && c != '<' && c != '>')

def hexDigit? (c : Char) : Option Nat :=
  if c.isDigit then some (c.toNat - 48)
  else if 'a' ≤ c ∧ c ≤ 'f' then some (c.toNat - 87)
  else if 'A' ≤ c ∧ c ≤ 'F' then some (c.toNat - 55)
  else none

/-- The character with that number, if there is one. -/
def char? (n : Nat) : Option Char :=
  if n.isValidChar then some (Char.ofNat n) else none

/-- Exactly `n` hexadecimal digits, the first of them in front. -/
def fixedHex (f : Flags) : (n acc : Nat) → List Char → Option (Nat × List Char)
  | 0, acc, cs => some (acc, cs)
  | _ + 1, _, [] => none
  | n + 1, acc, c :: rest =>
    match hexDigit? c with
    | none => none
    | some d => fixedHex f n (16 * acc + d) (f.skip rest)

/-- Hexadecimal digits up to a closing brace; `seen` says that there was one. -/
def bracedHex (f : Flags) : (fuel acc : Nat) → (seen : Bool) → List Char → Option (Nat × List Char)
  | 0, _, _, _ => none
  | _, _, _, [] => none
  | fuel + 1, acc, seen, c :: rest =>
    if c = '\x7d' then (if seen then some (acc, rest) else none)
    else match hexDigit? c with
      | none => none
      | some d => bracedHex f fuel (min (16 * acc + d) 0x110000) true (f.skip rest)

/-- A hexadecimal escape behind its letter. -/
def hexEscape (f : Flags) (width : Nat) (cs : List Char) : Option (Atom × List Char) :=
  match f.skip cs with
  | '\x7b' :: rest => do
    let rest := f.skip rest
    let (n, rest) ← bracedHex f (rest.length + 1) 0 false rest
    return (.literal (← char? n) false, rest)
  | cs => do
    let (n, rest) ← fixedHex f width 0 cs
    return (.literal (← char? n) (width = 2), rest)

/-- What stands up to the closing brace. -/
def upToBrace (f : Flags) : (fuel : Nat) → List Char → Option (List Char × List Char)
  | 0, _ => none
  | _, [] => none
  | fuel + 1, c :: rest =>
    if c = '\x7d' then some ([], rest)
    else (upToBrace f fuel (f.skip rest)).map fun (name, rest) => (c :: name, rest)

/-- A property class behind its letter. -/
def propertyEscape (f : Flags) (negated : Bool) (cs : List Char) : Option (Atom × List Char) := do
  let ((s, flip), rest) ← match f.skip cs with
    | [] => none
    | '\\' :: _ => none
    | '\x7b' :: rest =>
      let rest := f.skip rest
      let (name, rest) ← upToBrace f (rest.length + 1) rest
      pure (← propertyClass name, rest)
    | c :: rest => pure ((← namedClass [c], false), rest)
  if !f.unicode then none
  else
    let s := f.fold s
    return (.set (if negated != flip then f.negate s else s), rest)

/-- A word boundary behind its letter: plain, or with the name of its kind in braces. -/
def boundaryEscape (f : Flags) (cs : List Char) : Option (Atom × List Char) :=
  let isNameChar (c : Char) : Bool := c.isAlpha || c = '-'
  match cs with
  | '\x7b' :: rest =>
    match f.skip rest with
    | [] => none
    | c :: rest' =>
      if !isNameChar c then some (.look (.wordBoundary f.unicode), cs)
      else
        let body := c :: rest'
        let name := String.ofList (body.takeWhile isNameChar)
        match f.skip (body.dropWhile isNameChar) with
        | '\x7d' :: rest =>
          match name with
          | "start" => some (.look (.wordStart f.unicode), rest)
          | "end" => some (.look (.wordEnd f.unicode), rest)
          | "start-half" => some (.look (.wordStartHalf f.unicode), rest)
          | "end-half" => some (.look (.wordEndHalf f.unicode), rest)
          | _ => none
        | _ => none
  | _ => some (.look (.wordBoundary f.unicode), cs)

/-- An escape behind its backslash. -/
def escape (f : Flags) : List Char → Option (Atom × List Char)
  | [] => none
  | c :: rest =>
    match c with
    | 'x' => hexEscape f 2 rest
    | 'u' => hexEscape f 4 rest
    | 'U' => hexEscape f 8 rest
    | 'p' => propertyEscape f false rest
    | 'P' => propertyEscape f true rest
    | 'd' | 's' | 'w' => some (.set (letterClass f c), rest)
    | 'D' | 'S' | 'W' => some (.set (f.negate (letterClass f c.toLower)), rest)
    | 'a' => some (.literal '\x07' false, rest)
    | 'f' => some (.literal '\x0c' false, rest)
    | 't' => some (.literal '\t' false, rest)
    | 'n' => some (.literal '\n' false, rest)
    | 'r' => some (.literal '\r' false, rest)
    | 'v' => some (.literal '\x0b' false, rest)
    | 'A' => some (.look .textStart, rest)
    | 'z' => some (.look .textEnd, rest)
    | 'b' => boundaryEscape f rest
    | 'B' => some (.look (.notWordBoundary f.unicode), rest)
    | '<' => some (.look (.wordStart f.unicode), rest)
    | '>' => some (.look (.wordEnd f.unicode), rest)
    | c => if isEscapable c then some (.literal c false, rest) else none

/-- One item of a class: an escape or a plain character. -/
def classAtom (f : Flags) : List Char → Option (Atom × List Char)
  | [] => none
  | '\\' :: rest => escape f rest
  | c :: rest => some (.literal c false, rest)

/-- The number of a character in a class. Bytes of 128 and above have to be written in
hexadecimal where classes are made of bytes. -/
def classCode (f : Flags) (c : Char) (byte : Bool) : Option Nat :=
  if f.unicode || c.toNat < 128 || (byte && c.toNat < 256) then some c.toNat else none

/-- A character, class or range of a class. -/
def classItem (f : Flags) (cs : List Char) : Option (CodeSet × List Char) := do
  let (a, rest) ← classAtom f cs
  let rest := f.skip rest
  let alone : Option (CodeSet × List Char) :=
    match a with
    | .literal c byte => (classCode f c byte).map fun n => (.singleton n, rest)
    | .set s => some (s, rest)
    | .look _ => none
  match rest with
  | [] => none
  | '-' :: behind =>
    let behind := f.skip behind
    if behind.head? = some ']' ∨ behind.head? = some '-' then alone
    else do
      let (b, rest) ← classAtom f behind
      match a, b with
      | .literal c byte, .literal d byte' =>
        if c.toNat ≤ d.toNat then
          return ([⟨← classCode f c byte, ← classCode f d byte'⟩], rest)
        else none
      | _, _ => none
  | _ => alone

/-- An ASCII class at an opening bracket, if there is one. -/
def colonClass (f : Flags) : List Char → Option (CodeSet × List Char)
  | ':' :: rest =>
    let (negated, rest) := match rest with
      | '^' :: rest => (true, rest)
      | _ => (false, rest)
    match rest.dropWhile (· ≠ ':') with
    | ':' :: ']' :: behind =>
      (asciiClass (String.ofList (rest.takeWhile (· ≠ ':')))).map fun s =>
        (if negated then f.negate s else s, behind)
    | _ => none
  | _ => none

/-- The operations between the parts of a class. -/
inductive SetOp where
  | intersection
  | difference
  | symmetric

/-- Applies an operation that waits for its right side. -/
def applySetOp (f : Flags) (waiting : Option (CodeSet × SetOp)) (right : CodeSet) : CodeSet :=
  let top := if f.unicode then Text.maxCode else 255
  match waiting with
  | none => right
  | some (left, op) =>
    let left := f.fold left
    let right := f.fold right
    match op with
    | .intersection => .intersect left right
    | .difference => .subtract top left right
    | .symmetric => .union (.subtract top left right) (.subtract top right left)

/-- Dashes at the start of a class stand for themselves. -/
def leadingDashes (f : Flags) : (fuel : Nat) → (seen : CodeSet) → List Char → CodeSet × List Char
  | 0, seen, cs => (seen, cs)
  | fuel + 1, seen, cs =>
    match cs with
    | '-' :: rest => leadingDashes f fuel (.singleton 45) (f.skip rest)
    | _ => (seen, cs)

/-- How deep groups and classes may nest. -/
def nestLimit : Nat := 250

mutual

/-- A class behind its opening bracket. -/
def classOpen (f : Flags) : (fuel depth : Nat) → List Char → Option (CodeSet × List Char)
  | 0, _, _ => none
  | fuel + 1, depth, cs =>
    if depth = 0 then none
    else
      let cs := f.skip cs
      let (negated, cs) := match cs with
        | '^' :: rest => (true, f.skip rest)
        | _ => (false, cs)
      let (dashes, cs) := leadingDashes f cs.length [] cs
      let (first, cs) := match dashes, cs with
        | [], ']' :: rest => (.singleton 93, f.skip rest)
        | _, _ => (dashes, cs)
      match classRest f fuel (depth - 1) none first cs with
      | none => none
      | some (s, rest) =>
        let s := f.fold s
        some (if negated then f.negate s else s, rest)

/-- The items of a class up to its closing bracket. -/
def classRest (f : Flags) : (fuel depth : Nat) → Option (CodeSet × SetOp) → CodeSet → List Char →
    Option (CodeSet × List Char)
  | 0, _, _, _, _ => none
  | fuel + 1, depth, waiting, acc, cs =>
    match f.skip cs with
    | [] => none
    | '[' :: rest =>
      match colonClass f rest with
      | some (s, rest) => classRest f fuel depth waiting (.union acc s) rest
      | none =>
        match classOpen f fuel depth rest with
        | none => none
        | some (s, rest) => classRest f fuel depth waiting (.union acc s) rest
    | ']' :: rest => some (applySetOp f waiting acc, rest)
    | '&' :: '&' :: rest =>
      classRest f fuel depth (some (applySetOp f waiting acc, .intersection)) [] rest
    | '-' :: '-' :: rest =>
      classRest f fuel depth (some (applySetOp f waiting acc, .difference)) [] rest
    | '~' :: '~' :: rest =>
      classRest f fuel depth (some (applySetOp f waiting acc, .symmetric)) [] rest
    | cs =>
      match classItem f cs with
      | none => none
      | some (s, rest) => classRest f fuel depth waiting (.union acc s) rest

end

/-- Switches up to the colon or parenthesis that ends them. `seen` holds the letters so far and
`negating` says that a dash came; `dangling` that it was the last thing. -/
def switches : (fuel : Nat) → (seen : List Char) → (negating dangling : Bool) → Flags →
    List Char → Option (Flags × Bool × List Char)
  | 0, _, _, _, _, _ => none
  | _, _, _, _, _, [] => none
  | fuel + 1, seen, negating, dangling, f, c :: rest =>
    if c = ':' ∨ c = ')' then
      if dangling then none else some (f, seen.isEmpty && !negating, c :: rest)
    else if c = '-' then
      if negating then none else switches fuel seen true true f rest
    else if seen.contains c then none
    else
      let on := !negating
      let next : Option Flags := match c with
        | 'i' => some { f with ignoreCase := on }
        | 'm' => some { f with multiLine := on }
        | 's' => some { f with dotAll := on }
        | 'U' => some f
        | 'u' => some { f with unicode := on }
        | 'R' => some { f with crlf := on }
        | 'x' => some { f with extended := on }
        | _ => none
      match next with
      | none => none
      | some g => switches fuel (c :: seen) negating false g rest

/-- Whether a character may stand in the name of a group. -/
def isNameChar (first : Bool) (c : Char) : Bool :=
  c = '_' || (Text.alphabetic.contains c.toNat) ||
    (!first && (c = '.' || c = '[' || c = ']' ||
      (Text.categoryUnion ["nd", "nl", "no"]).contains c.toNat))

/-- The name of a group, up to the closing angle bracket. -/
def groupName (cs : List Char) : Option (List Char × List Char) :=
  let name := cs.takeWhile (· ≠ '>')
  match name, cs.dropWhile (· ≠ '>') with
  | c :: more, '>' :: rest =>
    if isNameChar true c && more.all (isNameChar false) then some (name, rest) else none
  | _, _ => none

/-- A whole number with blanks around it. -/
def decimal (f : Flags) (cs : List Char) : Option (Nat × List Char) :=
  let cs := cs.dropWhile isSpace
  let rec digits : (fuel acc : Nat) → (seen : Bool) → List Char → Option (Nat × List Char)
    | 0, _, _, _ => none
    | _, acc, seen, [] => if seen then some (acc, []) else none
    | fuel + 1, acc, seen, c :: rest =>
      if c.isDigit then digits fuel (min (10 * acc + (c.toNat - 48)) 4294967296) true (f.skip rest)
      else if seen then some (acc, c :: rest)
      else none
  match digits (cs.length + 1) 0 false cs with
  | some (n, rest) => if n < 4294967296 then some (n, rest.dropWhile isSpace) else none
  | none => none

/-- The counts of a repetition behind the opening brace. -/
def counts (f : Flags) (cs : List Char) : Option ((Nat × Option Nat) × List Char) := do
  let (low, rest) ← decimal f (f.skip cs)
  let (range, rest) ← match rest with
    | ',' :: rest =>
      match f.skip rest with
      | '\x7d' :: rest => pure ((low, none), '\x7d' :: rest)
      | rest => do
        let (high, rest) ← decimal f rest
        pure ((low, some high), rest)
    | _ => pure ((low, some low), rest)
  match rest with
  | '\x7d' :: rest =>
    if range.2.all (low ≤ ·) then some (range, f.skip rest) else none
  | _ => none

/-- A part of a sequence; a switch is a part that cannot be repeated. -/
abbrev Item := Option Pattern

def joinItems (items : List Item) : Pattern := .seqAll (items.reverse.filterMap id)

/-- A plain character, or a byte where patterns speak of bytes. -/
def literalPattern (f : Flags) (c : Char) (byte : Bool) : Pattern :=
  if !f.unicode && byte then .byte (f.fold (.singleton c.toNat))
  else if f.unicode || c.toNat < 128 then .char (f.fold (.singleton c.toNat))
  else .char (.singleton c.toNat)

def atomPattern (f : Flags) : Atom → Pattern
  | .literal c byte => literalPattern f c byte
  | .set s => f.single (f.fold s)
  | .look l => .look l

/-- Any character, but for line ends unless the flags say so. -/
def dotPattern (f : Flags) : Pattern :=
  let ends : CodeSet := if f.dotAll then [] else if f.crlf then [⟨10, 10⟩, ⟨13, 13⟩] else [⟨10, 10⟩]
  f.single (f.negate ends)

/-- What the parser holds besides the text: the flags in force and the group names so far. -/
structure Context where
  flags : Flags
  names : List (List Char)

/-- The result of a parsing step. -/
abbrev Parsed (α : Type) := Option (α × Context × List Char)

/-- Repeats the last part of a sequence. -/
def repeatLast (items : List Item) (min : Nat) (max : Option Nat) : Option (List Item) :=
  match items with
  | some p :: rest => some (some (.rep p min max) :: rest)
  | _ => none

/-- Drops the mark of a reluctant repetition, which matches the same texts. -/
def dropReluctant : List Char → List Char
  | '?' :: rest => rest
  | cs => cs

mutual

/-- Alternatives up to a closing parenthesis or the end. `items` holds the parts of the present
alternative, last first, and `done` the earlier alternatives. -/
def alternatives : (fuel depth : Nat) → (items : List Item) → (done : List Pattern) → Context →
    List Char → Parsed Pattern
  | 0, _, _, _, _, _ => none
  | fuel + 1, depth, items, done, ctx, cs =>
    let f := ctx.flags
    match f.skip cs with
    | [] => some (.altAll (joinItems items :: done).reverse, ctx, [])
    | ')' :: rest => some (.altAll (joinItems items :: done).reverse, ctx, ')' :: rest)
    | '|' :: rest => alternatives fuel depth [] (joinItems items :: done) ctx rest
    | '(' :: rest =>
      match group fuel depth ctx (f.skip rest) with
      | none => none
      | some (item, ctx, rest) => alternatives fuel depth (item :: items) done ctx rest
    | '[' :: rest =>
      match classOpen f (2 * rest.length + 2) depth rest with
      | none => none
      | some (s, rest) => alternatives fuel depth (some (f.single s) :: items) done ctx rest
    | '*' :: rest =>
      match repeatLast items 0 none with
      | none => none
      | some items => alternatives fuel depth items done ctx (dropReluctant rest)
    | '+' :: rest =>
      match repeatLast items 1 none with
      | none => none
      | some items => alternatives fuel depth items done ctx (dropReluctant rest)
    | '?' :: rest =>
      match repeatLast items 0 (some 1) with
      | none => none
      | some items => alternatives fuel depth items done ctx (dropReluctant rest)
    | '\x7b' :: rest =>
      match counts f rest with
      | none => none
      | some ((low, high), rest) =>
        match repeatLast items low high with
        | none => none
        | some items => alternatives fuel depth items done ctx (dropReluctant rest)
    | '.' :: rest => alternatives fuel depth (some (dotPattern f) :: items) done ctx rest
    | '^' :: rest =>
      let l := if f.multiLine then Look.lineStart f.crlf else .textStart
      alternatives fuel depth (some (.look l) :: items) done ctx rest
    | '$' :: rest =>
      let l := if f.multiLine then Look.lineEnd f.crlf else .textEnd
      alternatives fuel depth (some (.look l) :: items) done ctx rest
    | cs =>
      match classAtom f cs with
      | none => none
      | some (a, rest) => alternatives fuel depth (some (atomPattern f a) :: items) done ctx rest

/-- A group behind its opening parenthesis, or a change of switches. -/
def group : (fuel depth : Nat) → Context → List Char → Parsed Item
  | 0, _, _, _ => none
  | fuel + 1, depth, ctx, cs =>
    let close (flags : Flags) : Parsed Pattern → Parsed Item
      | some (p, ctx, ')' :: rest) => some (some p, { ctx with flags := flags }, rest)
      | _ => none
    let named (rest : List Char) : Parsed Item :=
      match groupName rest with
      | none => none
      | some (name, rest) =>
        if ctx.names.contains name then none
        else close ctx.flags
          (alternatives fuel (depth - 1) [] [] { ctx with names := name :: ctx.names } rest)
    if depth = 0 then none
    else match cs with
      | '?' :: '=' :: _ | '?' :: '!' :: _ | '?' :: '<' :: '=' :: _ | '?' :: '<' :: '!' :: _ => none
      | '?' :: 'P' :: '<' :: rest => named rest
      | '?' :: '<' :: rest => named rest
      | '?' :: rest =>
        match switches (rest.length + 1) [] false false ctx.flags rest with
        | some (flags, bare, ')' :: rest) =>
          if bare then none else some (none, { ctx with flags := flags }, rest)
        | some (flags, _, ':' :: rest) =>
          close ctx.flags (alternatives fuel (depth - 1) [] [] { ctx with flags := flags } rest)
        | _ => none
      | rest => close ctx.flags (alternatives fuel (depth - 1) [] [] ctx rest)

end

/-- How large a pattern may become when its repetitions are unfolded, in bytes. -/
def weightLimit : Nat := 10485760

/-- Reads a pattern; `none` if it is malformed or too large. -/
def parse (text : String) : Option Pattern :=
  let cs := text.toList
  match alternatives (2 * cs.length + 2) nestLimit [] [] ⟨{}, []⟩ cs with
  | some (p, _, []) => if p.weight ≤ weightLimit then some p else none
  | _ => none

end DeltaDebug.Regex
