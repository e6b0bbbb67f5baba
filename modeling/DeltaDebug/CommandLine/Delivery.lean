import DeltaDebug.FileTree.Basic

/-
  Writing a file whole or not at all: the bytes go to a temporary file in the same directory, which
  then takes the place of the file. A temporary file that does not get there is removed.
-/

namespace DeltaDebug.CommandLine

/-- A step of a delivery that fails from outside. -/
inductive Mishap where
  | create (cause : String)
  /-- No more than `written` bytes get into the temporary file. -/
  | write (written : Nat) (cause : String)
  | rename (cause : String)
deriving DecidableEq

/-- Why a file was not delivered. -/
inductive DeliveryError where
  | create (dir cause : String)
  | write (cause : String)
  | rename (path cause : String)
deriving DecidableEq

/-- The wording of the failure. -/
def DeliveryError.message : DeliveryError → String
  | .create dir cause => s!"create temp file in {dir}: {cause}"
  | .write cause => s!"write {cause}"
  | .rename path cause => s!"rename {path}: {cause}"

/-- The directory that a file is delivered to, as it is written. -/
def deliveryDirectory (path : String) : String :=
  let dir := Path.parent (Text.encode path)
  if dir = [] then "." else (Text.decode? dir).getD "."

/-- A name that is longer than every name in the tree, so that it is free in every directory. -/
def freeName (files : FileTree) : Name :=
  Text.encode ".tmp" ++ List.replicate files.longestName 120

/-- Where a temporary file can be made in a directory, or why it cannot. -/
def temporaryPlace (files : FileTree) (cwd : Path) (dir : String) : Except FileError Path :=
  match files.stat cwd (Text.encode dir) with
  | .error e => .error e
  | .ok (p, .directory) => .ok (p ++ [freeName files])
  | .ok _ => .error .notADirectory

/-- Where a file ends up, or why it cannot take its place: its directory is looked for first, then
its last name has to be one of a file. -/
def renameTarget (files : FileTree) (cwd : Path) (path : String) : Except FileError Path :=
  let text := Text.encode path
  if text.contains 0 then .error .nulByte
  else match (Path.splitSlashes text).reverse.dropWhile (· = []) with
    | [] => .error .busy
    | name :: above =>
      let start := if Path.isAbsolute text then [] else cwd
      match files.walk start (above.reverse ++ [Path.dot]) with
      | .error e => .error e
      | .ok dir =>
        if name = Path.dot ∨ name = Path.dotDot then .error .busy
        else if text.getLast? = some Path.slash then .error .notADirectory
        else match files.lookup (dir ++ [name]) with
          | some .directory => .error .isADirectory
          | _ => .ok (dir ++ [name])

/-- Delivers a file. Returns the files as they are then, also if that fails. -/
def deliver (mishap : Option Mishap) (files : FileTree) (cwd : Path) (path : String)
    (content : Candidate) : Except DeliveryError Unit × FileTree :=
  let dir := deliveryDirectory path
  match mishap, temporaryPlace files cwd dir with
  | some (.create cause), _ => (.error (.create dir cause), files)
  | _, .error e => (.error (.create dir e.message), files)
  | _, .ok temp =>
    let files := files.insert temp (.file [] false)
    match mishap with
    | some (.write written cause) =>
      let files := files.insert temp (.file (content.take written) false)
      (.error (.write cause), files.erase temp)
    | _ =>
      let files := files.insert temp (.file content false)
      match mishap, renameTarget files cwd path with
      | some (.rename cause), _ => (.error (.rename path cause), files.erase temp)
      | _, .error e => (.error (.rename path e.message), files.erase temp)
      | _, .ok p => (.ok (), (files.erase temp).insert p (.file content false))

end DeltaDebug.CommandLine
