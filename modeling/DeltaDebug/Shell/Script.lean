/-
  Scripts of the command language: words with their expansions, redirections and commands. Texts
  are sequences of bytes, each written as the character of that number.
-/

namespace DeltaDebug.Shell

/-- What a parameter expansion does besides taking the value. -/
inductive ParamOp where
  /-- The value, or the word if there is none. -/
  | default
  /-- The same, and the parameter keeps the word. -/
  | assign
  /-- An error if there is no value. -/
  | demand
  /-- The word if there is a value. -/
  | alternative
  /-- The value without a start that matches; the longest one if `longest`. -/
  | trimStart (longest : Bool)
  | trimEnd (longest : Bool)
  /-- The number of characters. -/
  | length
  /-- Nothing that is known. -/
  | invalid
deriving DecidableEq

/-- The kinds of redirections. -/
inductive RedirKind where
  | input
  | output
  | append
  | readWrite
  | dup
  | here
deriving DecidableEq

mutual

/-- A part of a word. -/
inductive Part where
  | lit (text : String) (quoted : Bool)
  /-- A parameter; with `colon`, an empty value counts as none. -/
  | param (name : String) (op : Option ParamOp) (colon : Bool) (word : List Part) (quoted : Bool)
  | command (body : Command) (quoted : Bool)
  | arith (expr : List Part) (quoted : Bool)

/-- A redirection of a file descriptor. A here-document is kept with its parts. -/
inductive Redir where
  | mk (fd : Nat) (kind : RedirKind) (word : List Part)
  /-- A here-document by its number in the script. -/
  | hereDoc (fd : Nat) (id : Nat)

/-- A command. -/
inductive Command where
  | simple (assigns : List (String × List Part)) (words : List (List Part)) (redirs : List Redir)
    (line : Nat)
  | pipeline (negated : Bool) (stages : List Command)
  | andThen (first second : Command)
  | orElse (first second : Command)
  | seq (first second : Command)
  | background (body : Command)
  | subshell (body : Command) (redirs : List Redir)
  | group (body : Command) (redirs : List Redir)
  | cond (test thenBody : Command) (elseBody : Option Command) (redirs : List Redir)
  /-- A loop that runs as long as the test succeeds, or fails if `until`. -/
  | loop (stopOnSuccess : Bool) (test body : Command) (redirs : List Redir)
  | forEach (name : String) (words : Option (List (List Part))) (body : Command)
    (redirs : List Redir)
  | case (subject : List Part) (arms : List (List (List Part) × Command)) (redirs : List Redir)
  | function (name : String) (body : Command)
  | skip

end

/-- A word: its parts one behind the other. -/
abbrev Word := List Part

instance : Inhabited Command := ⟨.skip⟩

/-- The text of a word that is a plain, unquoted literal. -/
def plainText? : Word → Option String
  | [.lit s false] => some s
  | _ => none

end DeltaDebug.Shell
