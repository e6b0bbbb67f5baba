import DeltaDebug.FileTree.Path

/-
  A file system as a value: which paths exist and what is there. There are no links, so a path
  names one file at most once its dots are resolved.
-/

namespace DeltaDebug

/-- What is at a path. -/
inductive FileEntry where
  | file (content : Candidate) (executable : Bool)
  | directory
  /-- A program of the system, known by its name. -/
  | tool (name : String)
deriving DecidableEq

/-- The files of a system. The root always exists. -/
structure FileTree where
  entries : List (Path × FileEntry)

/-- Failures of the file system. -/
inductive FileError where
  | notFound
  | permissionDenied
  | busy
  | alreadyExists
  | notADirectory
  | isADirectory
  | notEmpty
  | notExecutable
  | nulByte
  | notText
  | other (text : String)
deriving DecidableEq

/-- The wording of a failure. -/
def FileError.message : FileError → String
  | .notFound => "No such file or directory (os error 2)"
  | .permissionDenied => "Permission denied (os error 13)"
  | .busy => "Device or resource busy (os error 16)"
  | .alreadyExists => "File exists (os error 17)"
  | .notADirectory => "Not a directory (os error 20)"
  | .isADirectory => "Is a directory (os error 21)"
  | .notEmpty => "Directory not empty (os error 39)"
  | .notExecutable => "Exec format error (os error 8)"
  | .nulByte => "nul byte found in provided data"
  | .notText => "stream did not contain valid UTF-8"
  | .other text => text

namespace FileTree

/-- What is at a path. -/
def lookup (t : FileTree) (p : Path) : Option FileEntry :=
  if p = [] then some .directory else t.entries.lookup p

/-- Puts something at a path, over what was there. -/
def insert (t : FileTree) (p : Path) (e : FileEntry) : FileTree :=
  ⟨(p, e) :: t.entries.filter (·.1 ≠ p)⟩

def erase (t : FileTree) (p : Path) : FileTree := ⟨t.entries.filter (·.1 ≠ p)⟩

/-- The names in a directory. -/
def children (t : FileTree) (dir : Path) : List Name :=
  t.entries.filterMap fun (p, _) =>
    match p.getLast? with
    | some n => if p.dropLast = dir then some n else none
    | none => none

/-- The length of the longest name of a file. -/
def longestName (t : FileTree) : Nat :=
  t.entries.foldr (fun (p, _) n => max (p.getLast?.getD []).length n) 0

/-- Walks from a directory along names; every name but the last has to lead to a directory, which
`here` tells of the present place. -/
def walk (t : FileTree) (here : Path) : List Name → Except FileError Path
  | [] => .ok here
  | n :: rest =>
    match t.lookup here with
    | some .directory =>
      if n = Path.dot ∨ n = [] then t.walk here rest
      else if n = Path.dotDot then t.walk here.dropLast rest
      else t.walk (here ++ [n]) rest
    | some _ => .error .notADirectory
    | none => .error .notFound

/-- The path that a written path stands for, seen from a directory. The last name need not exist.
The empty text names nothing. -/
def resolve (t : FileTree) (cwd : Path) (text : List UInt8) : Except FileError Path :=
  if text = [] then .error .notFound
  else if text.contains 0 then .error .nulByte
  else
    let start := if Path.isAbsolute text then [] else cwd
    match t.walk start (Path.splitSlashes text) with
    | .error e => .error e
    | .ok p =>
      -- a slash at the end asks for a directory
      if Path.endsInDirectory text then
        match t.lookup p with
        | some .directory => .ok p
        | some _ => .error .notADirectory
        | none => .error .notFound
      else .ok p

/-- What a written path leads to. -/
def stat (t : FileTree) (cwd : Path) (text : List UInt8) : Except FileError (Path × FileEntry) :=
  match t.resolve cwd text with
  | .error e => .error e
  | .ok p =>
    match t.lookup p with
    | some e => .ok (p, e)
    | none => .error .notFound

def pathExists (t : FileTree) (cwd : Path) (text : List UInt8) : Bool :=
  (t.stat cwd text).toBool

/-- The content of a file; programs of the system have none that could be read here. -/
def read (t : FileTree) (cwd : Path) (text : List UInt8) : Except FileError Candidate :=
  match t.stat cwd text with
  | .error e => .error e
  | .ok (_, .file content _) => .ok content
  | .ok (_, .directory) => .error .isADirectory
  | .ok (_, .tool _) => .ok []

/-- Makes a directory with all those above it. -/
def makeDirectories (t : FileTree) (p : Path) : FileTree :=
  (List.range p.length).foldl (fun t n =>
    let q := p.take (n + 1)
    if (t.lookup q).isSome then t else t.insert q .directory) t

/-- Where the programs of the system are. -/
def toolDirectories : List String := ["/usr/local/sbin", "/usr/local/bin", "/usr/sbin", "/usr/bin",
  "/sbin", "/bin"]

/-- The programs of the system that are known. -/
def toolNames : List String :=
  ["sh", "dash", "true", "false", "echo", "printf", "cat", "grep", "egrep", "fgrep", "sleep", "rm",
   "touch", "mkdir", "rmdir", "test", "[", "env", "kill", "wc", "head", "tail", "tr", "seq", "cp",
   "mv", "basename", "dirname", "pwd", "tee", "rev", "sort", "uniq", "ls", "cmp"]

def ofText (s : String) : Path := Path.components (Text.encode s)

/-- A system with its programs and no other files. -/
def system : FileTree :=
  let dirs := toolDirectories ++ ["/tmp", "/dev", "/etc", "/root", "/home", "/proc", "/var/tmp"]
  let bare : FileTree := ⟨[]⟩
  let t := dirs.foldl (fun (t : FileTree) d => t.makeDirectories (ofText d)) bare
  let t := t.insert (ofText "/dev/null") (.tool "/dev/null")
  ["/usr/bin", "/bin"].foldl (fun (t : FileTree) d =>
    toolNames.foldl (fun (t : FileTree) n => t.insert (ofText (d ++ "/" ++ n)) (.tool n)) t) t

end FileTree

end DeltaDebug
