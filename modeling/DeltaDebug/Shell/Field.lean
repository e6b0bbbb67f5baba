import DeltaDebug.Shell.Glob
import DeltaDebug.Shell.Machine

/-
  From expanded words to fields: values that were not quoted are split, and what is left is
  matched against the names of files.
-/

namespace DeltaDebug.Shell

/-- A piece of an expanded word. -/
inductive Piece where
  /-- Text of the script itself, or a quoted value. -/
  | fixed (text : String) (quoted : Bool)
  /-- A value that is split. -/
  | value (text : String)
  /-- A place where one field ends and the next begins, even if they are empty. -/
  | hardCut
  /-- A place where a field ends if there is one. -/
  | softCut

namespace Field

/-- The fields so far, last first, and the one that is being collected. -/
structure Splitter where
  done : List (List Glyph) := []
  current : List Glyph := []
  started : Bool := false
  /-- Whether blanks have just ended a field. -/
  afterBlank : Bool := false

def Splitter.close (s : Splitter) : Splitter :=
  { s with done := s.current.reverse :: s.done, current := [], started := false }

def Splitter.closeIfStarted (s : Splitter) : Splitter := if s.started then s.close else s

def Splitter.add (s : Splitter) (c : Char) (active : Bool) : Splitter :=
  { s with current := ⟨c, active⟩ :: s.current, started := true, afterBlank := false }

def isBlank (c : Char) : Bool := c = ' ' || c = '\t' || c = '\n'

/-- One character of a value. Blanks among the separators only end a field; another separator ends
one even if it is empty. -/
def Splitter.valueChar (separators : List Char) (s : Splitter) (c : Char) : Splitter :=
  if separators.contains c then
    if isBlank c then
      if s.started then { s.close with afterBlank := true } else s
    else if s.afterBlank then { s with afterBlank := false }
    else { s.close with afterBlank := false }
  else s.add c true

def Splitter.piece (separators : List Char) (s : Splitter) : Piece → Splitter
  | .fixed text quoted =>
    let s := if quoted then { s with started := true, afterBlank := false } else s
    text.toList.foldl (fun s c => s.add c !quoted) s
  | .value text => text.toList.foldl (Splitter.valueChar separators) s
  | .hardCut => { s.close with started := true }
  | .softCut => s.closeIfStarted

/-- The fields of a word. -/
def split (separators : List Char) (pieces : List Piece) : List (List Glyph) :=
  (pieces.foldl (Splitter.piece separators) {}).closeIfStarted.done.reverse

/-- The text of a word that is not split. -/
def joined (pieces : List Piece) : String :=
  pieces.foldl (fun acc p => match p with
    | .fixed t _ => acc ++ t
    | .value t => acc ++ t
    | .hardCut | .softCut => acc.push ' ') ""

/-- A word as a pattern. -/
def glyphs (pieces : List Piece) : List Glyph :=
  pieces.flatMap fun
    | .fixed t quoted => t.toList.map fun c => ⟨c, !quoted⟩
    | .value t => t.toList.map fun c => ⟨c, true⟩
    | .hardCut | .softCut => [⟨' ', false⟩]

def text (gs : List Glyph) : String := String.ofList (gs.map (·.char))

/-- The parts of a pattern between slashes. -/
def segments : List Glyph → List (List Glyph)
  | [] => [[]]
  | g :: rest =>
    if g.char = '/' then [] :: segments rest
    else match segments rest with
      | [] => [[g]]
      | w :: ws => (g :: w) :: ws

/-- The names in a directory that a part of a pattern stands for; a dot at the start has to be
written. -/
def namesIn (files : FileTree) (dir : Path) (part : List Glyph) : List String :=
  let all := "." :: ".." :: (files.children dir).map bytesText
  let dotted := (part.head?).any (·.char = '.')
  let found := all.filter fun n =>
    n.startsWith "." = dotted && globMatches part n.toList
  found.mergeSort (fun a b => a ≤ b)

/-- The written paths that the parts of a pattern lead to, from what was written before. -/
def expandPath (files : FileTree) (cwd : Path) (before : String) : List (List Glyph) → List String
  | [] => []
  | [part] =>
    if hasGlob part then
      match files.resolve cwd (textBytes (if before = "" then "." else before)) with
      | .ok dir =>
        if files.lookup dir = some .directory then
          (namesIn files dir part).map (before ++ ·)
        else []
      | .error _ => []
    else
      let path := before ++ text part
      if files.pathExists cwd (textBytes path) then [path] else []
  | part :: rest =>
    if hasGlob part then
      match files.resolve cwd (textBytes (if before = "" then "." else before)) with
      | .ok dir =>
        (namesIn files dir part).flatMap fun n => expandPath files cwd (before ++ n ++ "/") rest
      | .error _ => []
    else expandPath files cwd (before ++ text part ++ "/") rest

/-- The files that a field names, or its own text if it names none. -/
def expandNames (files : FileTree) (cwd : Path) (field : List Glyph) : List String :=
  if !hasGlob field then [text field]
  else match expandPath files cwd "" (segments field) with
    | [] => [text field]
    | names => names

/-- A line split for variables: each takes a field, the last one all that is left. The flag of a
character tells that it is no separator, whatever it is. -/
def distribute (separators : List Char) : (count : Nat) → List Glyph → List String
  | 0, _ => []
  | count + 1, gs =>
    let isSep (g : Glyph) : Bool := g.active && separators.contains g.char
    let isSepBlank (g : Glyph) : Bool := isSep g && isBlank g.char
    let gs := gs.dropWhile isSepBlank
    let field := gs.takeWhile (!isSep ·)
    let rest := (gs.drop field.length).dropWhile isSepBlank
    let rest := match rest with
      | g :: more => if isSep g then more.dropWhile isSepBlank else rest
      | [] => []
    if count = 0 then
      if rest = [] then [text field]
      else [text (gs.reverse.dropWhile isSepBlank).reverse]
    else text field :: distribute separators count rest

end Field

end DeltaDebug.Shell
