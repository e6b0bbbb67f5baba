import DeltaDebug.Shell.Arith

/-
  Text output: escapes behind backslashes, and formats with the values that fill them.
-/

namespace DeltaDebug.Shell.Printf

def isOctal (c : Char) : Bool := '0' ≤ c && c ≤ '7'

/-- The character whose number is written in octal digits. -/
def octal (digits : List Char) : Char :=
  Char.ofNat ((digits.foldl (fun n c => n * 8 + (c.toNat - 48)) 0) % 256)

/-- The character behind a backslash with a letter. -/
def letter? (c : Char) : Option Char :=
  match c with
  | 'a' => some '\x07'
  | 'b' => some '\x08'
  | 'f' => some '\x0c'
  | 'n' => some '\n'
  | 'r' => some '\r'
  | 't' => some '\t'
  | 'v' => some '\x0b'
  | '\\' => some '\\'
  | _ => none

/-- A text with its escapes replaced; the flag tells that `\c` asks to stop there. A zero in front
of octal digits does not count towards their three. -/
def unescape : (fuel : Nat) → List Char → List Char × Bool
  | 0, cs => (cs, false)
  | fuel + 1, cs =>
    match cs with
    | [] => ([], false)
    | '\\' :: 'c' :: _ => ([], true)
    | '\\' :: c :: rest =>
      if isOctal c then
        let tail := if c = '0' then rest else c :: rest
        let digits := (tail.take 3).takeWhile isOctal
        let (more, stop) := unescape fuel (tail.drop digits.length)
        (octal digits :: more, stop)
      else
        let (more, stop) := unescape fuel rest
        match letter? c with
        | some d => (d :: more, stop)
        | none => ('\\' :: c :: more, stop)
    | c :: rest =>
      let (more, stop) := unescape fuel rest
      (c :: more, stop)

/-- What `echo` writes. -/
def echo (args : List String) : String :=
  let (noNewline, args) := match args with
    | "-n" :: rest => (true, rest)
    | args => (false, args)
  let cs := (" ".intercalate args).toList
  let (text, stopped) := unescape (cs.length + 1) cs
  String.ofList text ++ if stopped || noNewline then "" else "\n"

/-- One conversion: flags, width and precision. -/
structure Spec where
  left : Bool := false
  zero : Bool := false
  plus : Bool := false
  space : Bool := false
  alternate : Bool := false
  width : Nat := 0
  precision : Option Nat := none

/-- Fills a text up to the width. -/
def Spec.pad (s : Spec) (text : String) (numeric : Bool) : String :=
  let missing := s.width - text.length
  if missing = 0 then text
  else if s.left then text ++ String.ofList (List.replicate missing ' ')
  else if s.zero && numeric && s.precision.isNone then
    match text.toList with
    | '-' :: rest => String.ofList ('-' :: List.replicate missing '0' ++ rest)
    | cs => String.ofList (List.replicate missing '0' ++ cs)
  else String.ofList (List.replicate missing ' ') ++ text

/-- What printing has come to. -/
structure Progress where
  out : String := ""
  args : List String
  /-- Whether a value was asked for. -/
  used : Bool := false
  faults : List String := []
  stopped : Bool := false

/-- The next value, empty if there are no more. -/
def Progress.next (p : Progress) : String × Progress :=
  match p.args with
  | a :: rest => (a, { p with args := rest, used := true })
  | [] => ("", { p with used := true })

/-- The next value as a number. A quote in front asks for a character's number. -/
def Progress.number (p : Progress) : Int × Progress :=
  match p.args with
  | [] => (0, { p with used := true })
  | _ =>
    let (a, p) := p.next
    match a.toList with
    | '\'' :: c :: _ => (c.toNat, p)
    | '"' :: c :: _ => (c.toNat, p)
    | cs =>
      let cs := Arith.skipSpace cs
      let (negative, cs) := match cs with
        | '-' :: cs => (true, cs)
        | '+' :: cs => (false, cs)
        | cs => (false, cs)
      match Arith.number? cs with
      | none => (0, { p with faults := (a ++ ": expected numeric value") :: p.faults })
      | some (n, rest) =>
        let n : Int := if negative then -(n : Int) else n
        if rest = [] then (n, p)
        else (n, { p with faults := (a ++ ": not completely converted") :: p.faults })

/-- Digits of a number, with at least as many as the precision asks for. -/
def digits (base : Nat) (n : Nat) (precision : Option Nat) : String :=
  let ds := Nat.toDigits base n
  let ds := if precision = some 0 ∧ n = 0 then [] else ds
  String.ofList (List.replicate (precision.getD 0 - ds.length) '0' ++ ds)

def readNat (cs : List Char) : Nat × List Char :=
  let ds := cs.takeWhile Char.isDigit
  (ds.foldl (fun n c => n * 10 + (c.toNat - 48)) 0, cs.drop ds.length)

def flags : (fuel : Nat) → Spec → List Char → Spec × List Char
  | 0, s, cs => (s, cs)
  | fuel + 1, s, cs =>
    match cs with
    | '-' :: rest => flags fuel { s with left := true } rest
    | '0' :: rest => flags fuel { s with zero := true } rest
    | '+' :: rest => flags fuel { s with plus := true } rest
    | ' ' :: rest => flags fuel { s with space := true } rest
    | '#' :: rest => flags fuel { s with alternate := true } rest
    | _ => (s, cs)

/-- One pass over the format. -/
def pass : (fuel : Nat) → List Char → Progress → Progress
  | 0, _, p => p
  | fuel + 1, cs, p =>
    match cs with
    | [] => p
    | '\\' :: c :: rest =>
      if isOctal c then
        let ds := ((c :: rest).take 3).takeWhile isOctal
        pass fuel ((c :: rest).drop ds.length) { p with out := p.out.push (octal ds) }
      else match letter? c with
        | some d => pass fuel rest { p with out := p.out.push d }
        | none => pass fuel rest { p with out := (p.out.push '\\').push c }
    | '%' :: '%' :: rest => pass fuel rest { p with out := p.out.push '%' }
    | '%' :: rest =>
      let (s, rest) := flags rest.length {} rest
      let (s, rest, p) := match rest with
        | '*' :: rest =>
          let (n, p) := p.number
          ({ s with width := n.natAbs, left := s.left || n < 0 }, rest, p)
        | _ =>
          let (n, rest) := readNat rest
          ({ s with width := n }, rest, p)
      let (s, rest, p) := match rest with
        | '.' :: '*' :: rest =>
          let (n, p) := p.number
          ({ s with precision := if n < 0 then none else some n.toNat }, rest, p)
        | '.' :: rest =>
          let (n, rest) := readNat rest
          ({ s with precision := some n }, rest, p)
        | _ => (s, rest, p)
      let cut (t : String) : String := match s.precision with
        | some n => String.ofList (t.toList.take n)
        | none => t
      let add (p : Progress) (t : String) (numeric : Bool) : Progress :=
        { p with out := p.out ++ s.pad t numeric }
      match rest with
      | [] => { p with faults := "%: invalid directive" :: p.faults, stopped := true }
      | c :: rest =>
        match c with
        | 's' =>
          let (a, p) := p.next
          pass fuel rest (add p (cut a) false)
        | 'b' =>
          let (a, p) := p.next
          let (text, stop) := unescape (a.length + 1) a.toList
          let p := add p (cut (String.ofList text)) false
          if stop then { p with stopped := true } else pass fuel rest p
        | 'c' =>
          let (a, p) := p.next
          pass fuel rest (add p (String.ofList (a.toList.take 1)) false)
        | _ =>
          let unsigned (base : Nat) (upper : Bool) (mark : String) : Progress :=
            let (n, p) := p.number
            let n := Arith.bits n
            let t := digits base n s.precision
            let t := if s.alternate ∧ n ≠ 0 then mark ++ t else t
            let t := if upper then t.map Char.toUpper else t
            pass fuel rest (add p t true)
          match c with
          | 'd' | 'i' =>
            let (n, p) := p.number
            let t := digits 10 n.natAbs s.precision
            let t := if n < 0 then "-" ++ t else if s.plus then "+" ++ t
              else if s.space then " " ++ t else t
            pass fuel rest (add p t true)
          | 'u' => unsigned 10 false ""
          | 'o' => unsigned 8 false "0"
          | 'x' => unsigned 16 false "0x"
          | 'X' => unsigned 16 true "0x"
          | _ =>
            { p with
              faults := ("%" ++ String.singleton c ++ ": invalid directive") :: p.faults
              stopped := true }
    | c :: rest => pass fuel rest { p with out := p.out.push c }

/-- Goes over the format until all values are used. -/
def passes (format : List Char) : (fuel : Nat) → Progress → Progress
  | 0, p => p
  | fuel + 1, p =>
    let q := pass (format.length + 1) format { p with used := false }
    if q.stopped || q.args.isEmpty || !q.used then q else passes format fuel q

/-- What `printf` writes, and what is wrong with its values. -/
def render (format : String) (args : List String) : String × List String :=
  let p := passes format.toList (args.length + 1) { args := args }
  (p.out, p.faults.reverse)

end DeltaDebug.Shell.Printf
