/-
  Arithmetic of the command language: signed 64-bit numbers that wrap around, with the operators
  and the short-circuit rules of expressions.
-/

namespace DeltaDebug.Shell

/-- An arithmetic expression. -/
inductive Arith where
  | num (n : Int)
  | var (name : String)
  | unary (op : Char) (e : Arith)
  | binary (op : String) (a b : Arith)
  | and (a b : Arith)
  | or (a b : Arith)
  | cond (test a b : Arith)
  /-- An assignment, possibly of the old value combined with the new one. -/
  | assign (name : String) (op : Option String) (e : Arith)

/-- Why an expression has no value. -/
inductive ArithError where
  | expectingPrimary
  | expectingEnd
  | expectingColon
  | expectingClosing
  | divisionByZero
  /-- The value of a variable is no number. -/
  | illegalNumber (text : String)

namespace Arith

/-- The number in 64 bits. -/
def wrap (n : Int) : Int := Int.bmod n 18446744073709551616

def digitValue (c : Char) : Nat :=
  if c.isDigit then c.toNat - 48
  else if 'a' ≤ c ∧ c ≤ 'f' then c.toNat - 87
  else if 'A' ≤ c ∧ c ≤ 'F' then c.toNat - 55
  else 99

/-- Numbers past the largest one stay there. -/
def clamp (n : Nat) : Nat := min n 9223372036854775807

/-- The number at the start of a text, with the base its start gives, and what follows. -/
def number? (cs : List Char) : Option (Nat × List Char) :=
  let read (base : Nat) (cs : List Char) : Option (Nat × List Char) :=
    let digits := cs.takeWhile fun c => digitValue c < base
    if digits = [] then none
    else some (clamp (digits.foldl (fun n c => n * base + digitValue c) 0), cs.drop digits.length)
  match cs with
  | '0' :: 'x' :: rest => (read 16 rest).orElse fun _ => some (0, 'x' :: rest)
  | '0' :: 'X' :: rest => (read 16 rest).orElse fun _ => some (0, 'X' :: rest)
  | '0' :: _ => read 8 cs
  | _ => read 10 cs

def skipSpace (cs : List Char) : List Char :=
  cs.dropWhile fun c => c = ' ' || ('\t' ≤ c && c ≤ '\r')

/-- The number that a whole text stands for, blanks around it aside. -/
def ofText? (s : String) : Option Int :=
  let cs := skipSpace s.toList
  let (negative, cs) := match cs with
    | '-' :: cs => (true, cs)
    | '+' :: cs => (false, cs)
    | cs => (false, cs)
  match number? cs with
  | some (n, rest) =>
    if skipSpace rest = [] then some (if negative then -(n : Int) else n) else none
  | none => none

/-- The operators between two operands: the tightest level first. -/
def levels : List (List String) :=
  [["*", "/", "%"], ["+", "-"], ["<<", ">>"], ["<=", ">=", "<", ">"], ["==", "!="], ["&"], ["^"],
   ["|"]]

def assignOps : List String := ["<<", ">>", "+", "-", "*", "/", "%", "&", "^", "|"]

/-- Takes a text off the front. -/
def strip (op : String) (cs : List Char) : Option (List Char) :=
  if op.toList.isPrefixOf cs then some (cs.drop op.length) else none

/-- The operator of a level that stands here. An operator with an equals sign behind it is an
assignment, and a doubled one is another operator. -/
def operatorAt (ops : List String) (cs : List Char) : Option (String × List Char) :=
  ops.findSome? fun op =>
    match strip op cs with
    | none => none
    | some rest =>
      let combined := !(["<=", ">=", "==", "!="].contains op) && rest.head? = some '='
      let doubled := (op = "&" && rest.head? = some '&') || (op = "|" && rest.head? = some '|')
        || (op = "<" && rest.head? = some '<') || (op = ">" && rest.head? = some '>')
      if combined || doubled then none else some (op, rest)

abbrev Step := Except ArithError (Arith × List Char)

mutual

/-- An expression of any kind. -/
def expression : (fuel : Nat) → List Char → Step
  | 0, _ => .error .expectingPrimary
  | fuel + 1, cs =>
    let cs := skipSpace cs
    let name := cs.takeWhile fun c => c.isAlphanum || c = '_'
    let isName := match name with
      | c :: _ => !c.isDigit
      | [] => false
    let rest := skipSpace (cs.drop name.length)
    let target : Option (Option String × List Char) :=
      if !isName then none
      else match rest with
        | '=' :: '=' :: _ => none
        | '=' :: rest => some (none, rest)
        | _ => assignOps.findSome? fun op => (strip (op ++ "=") rest).map fun r => (some op, r)
    match target with
    | some (op, rest) =>
      match expression fuel rest with
      | .ok (e, rest) => .ok (.assign (String.ofList name) op e, rest)
      | .error e => .error e
    | none => conditional fuel cs

/-- A choice, or what binds tighter. -/
def conditional : (fuel : Nat) → List Char → Step
  | 0, _ => .error .expectingPrimary
  | fuel + 1, cs => do
    let (test, rest) ← disjunction fuel cs
    match skipSpace rest with
    | '?' :: rest =>
      let (a, rest) ← expression fuel rest
      match skipSpace rest with
      | ':' :: rest =>
        let (b, rest) ← conditional fuel rest
        return (.cond test a b, rest)
      | _ => .error .expectingColon
    | rest => return (test, rest)

def disjunction : (fuel : Nat) → List Char → Step
  | 0, _ => .error .expectingPrimary
  | fuel + 1, cs => do
    let (a, rest) ← conjunction fuel cs
    match skipSpace rest with
    | '|' :: '|' :: rest =>
      let (b, rest) ← disjunction fuel rest
      return (.or a b, rest)
    | rest => return (a, rest)

def conjunction : (fuel : Nat) → List Char → Step
  | 0, _ => .error .expectingPrimary
  | fuel + 1, cs => do
    let (a, rest) ← level fuel levels.length cs
    match skipSpace rest with
    | '&' :: '&' :: rest =>
      let (b, rest) ← conjunction fuel rest
      return (.and a b, rest)
    | rest => return (a, rest)

/-- Operands joined by the operators of a level, which group to the left. -/
def level : (fuel : Nat) → (n : Nat) → List Char → Step
  | 0, _, _ => .error .expectingPrimary
  | fuel + 1, n, cs =>
    if n = 0 then primary fuel cs
    else do
      let (a, rest) ← level fuel (n - 1) cs
      levelRest fuel n a rest

def levelRest : (fuel : Nat) → (n : Nat) → Arith → List Char → Step
  | 0, _, _, _ => .error .expectingPrimary
  | fuel + 1, n, a, cs =>
    match operatorAt (levels.getD (n - 1) []) (skipSpace cs) with
    | some (op, rest) => do
      let (b, rest) ← level fuel (n - 1) rest
      levelRest fuel n (.binary op a b) rest
    | none => .ok (a, cs)

/-- A number, a variable, a sign before one of them, or an expression in parentheses. -/
def primary : (fuel : Nat) → List Char → Step
  | 0, _ => .error .expectingPrimary
  | fuel + 1, cs =>
    match skipSpace cs with
    | [] => .error .expectingPrimary
    | c :: rest =>
      if c = '(' then do
        let (e, rest) ← expression fuel rest
        match skipSpace rest with
        | ')' :: rest => return (e, rest)
        | _ => .error .expectingClosing
      else if c = '-' ∨ c = '+' ∨ c = '~' ∨ c = '!' then do
        let (e, rest) ← primary fuel rest
        return (.unary c e, rest)
      else if c.isDigit then
        match number? (c :: rest) with
        | some (n, rest) => .ok (.num n, rest)
        | none => .error .expectingPrimary
      else if c.isAlpha || c = '_' then
        let name := (c :: rest).takeWhile fun c => c.isAlphanum || c = '_'
        .ok (.var (String.ofList name), (c :: rest).drop name.length)
      else .error .expectingPrimary

end

/-- The expression that a text stands for. -/
def parse (s : String) : Except ArithError Arith :=
  match expression (20 * s.length + 40) s.toList with
  | .error e => .error e
  | .ok (e, rest) => if skipSpace rest = [] then .ok e else .error .expectingEnd

def ofBool (b : Bool) : Int := if b then 1 else 0

/-- The 64 bits of a number. -/
def bits (n : Int) : Nat := (Int.emod n 18446744073709551616).toNat

/-- The value of an operation. -/
def apply (op : String) (a b : Int) : Except ArithError Int :=
  match op with
  | "*" => .ok (wrap (a * b))
  | "/" => if b = 0 then .error .divisionByZero else .ok (wrap (Int.tdiv a b))
  | "%" => if b = 0 then .error .divisionByZero else .ok (Int.tmod a b)
  | "+" => .ok (wrap (a + b))
  | "-" => .ok (wrap (a - b))
  | "<<" => .ok (wrap (bits a <<< (bits b % 64)))
  | ">>" => .ok (Int.fdiv a (Nat.pow 2 (bits b % 64)))
  | "<=" => .ok (ofBool (a ≤ b))
  | ">=" => .ok (ofBool (b ≤ a))
  | "<" => .ok (ofBool (a < b))
  | ">" => .ok (ofBool (b < a))
  | "==" => .ok (ofBool (a = b))
  | "!=" => .ok (ofBool (a ≠ b))
  | "&" => .ok (wrap (bits a &&& bits b))
  | "^" => .ok (wrap (bits a ^^^ bits b))
  | _ => .ok (wrap (bits a ||| bits b))

/-- The value of a variable. -/
def varValue (lookup : String → Option String) (written : List (String × Int)) (name : String) :
    Except ArithError Int :=
  match written.lookup name with
  | some n => .ok n
  | none =>
    match lookup name with
    | none => .ok 0
    | some "" => .ok 0
    | some s =>
      match ofText? s with
      | some n => .ok n
      | none => .error (.illegalNumber s)

/-- The value of an expression, with the variables written on the way, latest first. -/
def eval (lookup : String → Option String) : Arith → List (String × Int) →
    Except ArithError (Int × List (String × Int))
  | .num n, w => .ok (wrap n, w)
  | .var name, w => do
    let n ← varValue lookup w name
    return (n, w)
  | .unary op e, w => do
    let (n, w) ← eval lookup e w
    let n := match op with
      | '-' => wrap (-n)
      | '~' => -n - 1
      | '!' => ofBool (n = 0)
      | _ => n
    return (n, w)
  | .binary op a b, w => do
    let (m, w) ← eval lookup a w
    let (n, w) ← eval lookup b w
    return (← apply op m n, w)
  | .and a b, w => do
    let (m, w) ← eval lookup a w
    if m = 0 then return (0, w)
    else
      let (n, w) ← eval lookup b w
      return (ofBool (n ≠ 0), w)
  | .or a b, w => do
    let (m, w) ← eval lookup a w
    if m ≠ 0 then return (1, w)
    else
      let (n, w) ← eval lookup b w
      return (ofBool (n ≠ 0), w)
  | .cond test a b, w => do
    let (m, w) ← eval lookup test w
    if m ≠ 0 then eval lookup a w else eval lookup b w
  | .assign name op e, w => do
    let (n, w) ← eval lookup e w
    let value ← match op with
      | none => pure n
      | some op => do
        let old ← varValue lookup w name
        apply op old n
    return (value, (name, value) :: w)

end Arith

/-- The wording of a failure in an expression. -/
def ArithError.message (text : String) : ArithError → String
  | .illegalNumber s => "Illegal number: " ++ s
  | e =>
    let what := match e with
      | .expectingPrimary => "expecting primary"
      | .expectingEnd => "expecting EOF"
      | .expectingColon => "expecting ':'"
      | .expectingClosing => "expecting ')'"
      | _ => "division by zero"
    "arithmetic expression: " ++ what ++ ": \"" ++ text ++ "\""

end DeltaDebug.Shell
