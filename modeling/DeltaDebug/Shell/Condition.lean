/-
  Conditions on texts, numbers and files: what `test` looks at. How many words there are decides
  first which of them are operators.
-/

namespace DeltaDebug.Shell.Condition

/-- The kinds of operator words. -/
inductive Kind where
  | unary
  | binary
  | and
  | or
  | not
  | opening
  | closing
deriving DecidableEq

def kind? (w : String) : Option Kind :=
  if ["-r", "-w", "-x", "-e", "-f", "-d", "-c", "-b", "-p", "-u", "-g", "-k", "-s", "-t", "-z", "-n",
      "-h", "-O", "-G", "-L", "-S"].contains w then some .unary
  else if ["=", "!=", "<", ">", "-eq", "-ne", "-gt", "-ge", "-lt", "-le", "-nt", "-ot",
      "-ef"].contains w then some .binary
  else if w = "-a" then some .and
  else if w = "-o" then some .or
  else if w = "!" then some .not
  else if w = "(" then some .opening
  else if w = ")" then some .closing
  else none

/-- How a word counts where it stands: as an operator, an operand, or the end. -/
inductive Token where
  | finish
  | operand
  | op (k : Kind)
deriving DecidableEq

/-- A unary operator is an operand if nothing follows, or if a binary operator and its operand do;
an opening parenthesis is one if nothing follows. -/
def token (ws : List String) (i : Nat) : Token :=
  match ws[i]? with
  | none => .finish
  | some w =>
    match kind? w with
    | none => .operand
    | some .unary =>
      match ws[i + 1]?, ws[i + 2]? with
      | none, _ => .operand
      | some _, none => .op .unary
      | some v, some _ => if kind? v = some .binary then .operand else .op .unary
    | some .opening => if ws[i + 1]?.isNone then .operand else .op .opening
    | some k => .op k

def isSpace (c : Char) : Bool := c = ' ' || ('\t' ≤ c && c ≤ '\r')

/-- A decimal number of 64 bits, blanks around it aside. -/
def number (s : String) : Except String Int :=
  let fault : Except String Int := .error ("Illegal number: " ++ s)
  let cs := s.toList.dropWhile isSpace
  let (negative, cs) := match cs with
    | '-' :: cs => (true, cs)
    | '+' :: cs => (false, cs)
    | cs => (false, cs)
  let digits := cs.takeWhile Char.isDigit
  if digits = [] ∨ (cs.drop digits.length).any (!isSpace ·) then fault
  else
    let n : Nat := digits.foldl (fun n c => n * 10 + (c.toNat - 48)) 0
    if n < 9223372036854775808 then .ok (if negative then -(n : Int) else n) else fault

/-- Compares two operands. -/
def compare (sameFile : String → String → Bool) (op a b : String) : Except String Bool :=
  match op with
  | "=" => .ok (a = b)
  | "!=" => .ok (a ≠ b)
  | "<" => .ok (a < b)
  | ">" => .ok (b < a)
  | "-nt" => .ok false
  | "-ot" => .ok false
  | "-ef" => .ok (sameFile a b)
  | _ => do
    let x ← number a
    let y ← number b
    match op with
    | "-eq" => return x = y
    | "-ne" => return x ≠ y
    | "-gt" => return y < x
    | "-ge" => return y ≤ x
    | "-lt" => return x < y
    | _ => return x ≤ y

/-- What a condition can ask about files. -/
structure FileTests where
  /-- Whether a file is as the letter of the operator says. -/
  holds : String → String → Bool
  sameFile : String → String → Bool

mutual

/-- Alternatives; returns the place of the last word that was used. -/
def disjunction (tests : FileTests) (ws : List String) : (fuel : Nat) → Token → Nat →
    Except String (Bool × Nat)
  | 0, _, _ => .error "expression too deep"
  | fuel + 1, t, i => do
    let (a, i) ← conjunction tests ws fuel t i
    if token ws (i + 1) = .op .or then
      let (b, i) ← disjunction tests ws fuel (token ws (i + 2)) (i + 2)
      return (a || b, i)
    else return (a, i)

def conjunction (tests : FileTests) (ws : List String) : (fuel : Nat) → Token → Nat →
    Except String (Bool × Nat)
  | 0, _, _ => .error "expression too deep"
  | fuel + 1, t, i => do
    let (a, i) ← negation tests ws fuel t i
    if token ws (i + 1) = .op .and then
      let (b, i) ← conjunction tests ws fuel (token ws (i + 2)) (i + 2)
      return (a && b, i)
    else return (a, i)

def negation (tests : FileTests) (ws : List String) : (fuel : Nat) → Token → Nat →
    Except String (Bool × Nat)
  | 0, _, _ => .error "expression too deep"
  | fuel + 1, t, i =>
    if t = .op .not then do
      let (a, i) ← negation tests ws fuel (token ws (i + 1)) (i + 1)
      return (!a, i)
    else primary tests ws fuel t i

def primary (tests : FileTests) (ws : List String) : (fuel : Nat) → Token → Nat →
    Except String (Bool × Nat)
  | 0, _, _ => .error "expression too deep"
  | fuel + 1, t, i =>
    match t with
    | .finish => .ok (false, i)
    | .op .opening =>
      if token ws (i + 1) = .op .closing then .ok (false, i + 1)
      else do
        let (a, j) ← disjunction tests ws fuel (token ws (i + 1)) (i + 1)
        if token ws (j + 1) = .op .closing then return (a, j + 1)
        else .error "closing paren expected"
    | .op .unary =>
      let op := ws.getD i ""
      match ws[i + 1]? with
      | none => .error (op ++ ": argument expected")
      | some w =>
        match op with
        | "-z" => .ok (w = "", i + 1)
        | "-n" => .ok (w ≠ "", i + 1)
        | "-t" => do
          let _ ← number w
          return (false, i + 1)
        | _ => .ok (tests.holds op w, i + 1)
    | _ =>
      if token ws (i + 1) = .op .binary then
        let op := ws.getD (i + 1) ""
        match ws[i + 2]? with
        | none => .error (op ++ ": argument expected")
        | some w => do
          let a ← compare tests.sameFile op (ws.getD i "") w
          return (a, i + 2)
      else .ok (ws.getD i "" ≠ "", i)

end

/-- Evaluates from the first word on. -/
def evalFrom (tests : FileTests) (ws : List String) (first : Token) : Except String Bool := do
  let (a, i) ← disjunction tests ws (4 * ws.length + 8) first 0
  match ws[i]?, ws[i + 1]? with
  | some w, some _ => .error (w ++ ": unexpected operator")
  | _, _ => return a

/-- Whether the condition that the words state holds. With three words, a binary operator in the
middle goes first; with three or four, parentheses around or a negation in front. -/
def holds (tests : FileTests) : (fuel : Nat) → List String → Except String Bool
  | 0, _ => .ok false
  | fuel + 1, ws =>
    if ws = [] then .ok false
    else
      let special := ws.length = 3 ∨ ws.length = 4
      if ws.length = 3 ∧ kind? (ws.getD 1 "") = some .binary then evalFrom tests ws .operand
      else if special ∧ ws.head? = some "(" ∧ ws.getLast? = some ")" then
        let inner := (ws.drop 1).dropLast
        evalFrom tests inner (token inner 0)
      else if special ∧ ws.head? = some "!" then
        match holds tests fuel (ws.drop 1) with
        | .ok a => .ok !a
        | .error e => .error e
      else evalFrom tests ws (token ws 0)

end DeltaDebug.Shell.Condition
