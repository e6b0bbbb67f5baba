import DeltaDebug.Oracle.Basic
import Std.Data.HashMap

/-
  Scripted oracles: a list of rules, each a predicate on the candidate and on the calls so far
  with the outcome it brings about. They stand in for a target where one is not to be run.
-/

namespace DeltaDebug.Scripted

/-- A predicate on a call: on its candidate, its number, and how often the same candidate came
before. -/
inductive Pred where
  | always
  | contains (w : Candidate)
  | subsequence (w : Candidate)
  | equals (w : Candidate)
  | startsWith (w : Candidate)
  | endsWith (w : Candidate)
  | lengthGe (k : Nat)
  | lengthLe (k : Nat)
  | lengthMod (m r : Nat)
  | countGe (byte k : Nat)
  | sumMod (m r : Nat)
  | hashLt (seed : UInt64) (m k : Nat)
  | sorted
  | callEq (k : Nat)
  | callLt (k : Nat)
  | seenEq (k : Nat)
  | seenLt (k : Nat)
  | not (p : Pred)
  | and (ps : List Pred)
  | or (ps : List Pred)

/-- What a rule brings about. -/
inductive Outcome where
  | verdict (v : Verdict)
  | abandoned
  | io (context message : String)
  | spawn (program message : String)

structure Rules where
  rules : List (Pred × Outcome)
  otherwise : Outcome

/-- What an oracle remembers of its calls. -/
structure State where
  calls : Nat := 0
  seen : Std.HashMap Candidate Nat := {}

/-- One call, as predicates see it. -/
structure Call where
  candidate : Candidate
  number : Nat
  seen : Nat

/-- A remainder; a modulus of 0 counts as 1. -/
def modulo (n m : Nat) : Nat := n % max m 1

def containsList (w : Candidate) : Candidate → Bool
  | [] => w.isEmpty
  | c :: rest => w.isPrefixOf (c :: rest) || containsList w rest

def nonDecreasing : Candidate → Bool
  | a :: b :: rest => a ≤ b && nonDecreasing (b :: rest)
  | _ => true

/-- A hash of the bytes, mixed at the end. -/
def hash (seed : UInt64) (bytes : Candidate) : UInt64 :=
  let h := bytes.foldl (fun h b => (h ^^^ b.toUInt64) * 0x100000001b3) (0xcbf29ce484222325 ^^^ seed)
  let h := (h ^^^ (h >>> 33)) * 0xff51afd7ed558ccd
  h ^^^ (h >>> 33)

mutual

def Pred.holds (c : Call) : Pred → Bool
  | .always => true
  | .contains w => containsList w c.candidate
  | .subsequence w => w.isSublist c.candidate
  | .equals w => c.candidate = w
  | .startsWith w => w.isPrefixOf c.candidate
  | .endsWith w => w.isSuffixOf c.candidate
  | .lengthGe k => k ≤ c.candidate.length
  | .lengthLe k => c.candidate.length ≤ k
  | .lengthMod m r => modulo c.candidate.length m = r
  | .countGe byte k => k ≤ c.candidate.countP (·.toNat = byte)
  | .sumMod m r => modulo (c.candidate.foldl (fun n b => n + b.toNat) 0) m = r
  | .hashLt seed m k => modulo (hash seed c.candidate).toNat m < k
  | .sorted => nonDecreasing c.candidate
  | .callEq k => c.number = k
  | .callLt k => c.number < k
  | .seenEq k => c.seen = k
  | .seenLt k => c.seen < k
  | .not p => !p.holds c
  | .and ps => holdsAll c ps
  | .or ps => holdsAny c ps

def holdsAll (c : Call) : List Pred → Bool
  | [] => true
  | p :: rest => p.holds c && holdsAll c rest

def holdsAny (c : Call) : List Pred → Bool
  | [] => false
  | p :: rest => p.holds c || holdsAny c rest

end

def Outcome.answer : Outcome → Answer
  | .verdict v => .ok (some v)
  | .abandoned => .ok none
  | .io context message => .error (.io context message)
  | .spawn program message => .error (.spawn program message)

/-- The outcome of the first rule that applies. -/
def Rules.outcome (r : Rules) (c : Call) : Outcome :=
  match r.rules.find? (·.1.holds c) with
  | some (_, o) => o
  | none => r.otherwise

/-- The oracle of some rules. A call that is cancelled before it starts leaves no trace. -/
def Rules.oracle (r : Rules) : Oracle State where
  call patience c st :=
    match patience with
    | some 0 => (⟨.ok none, []⟩, st)
    | _ =>
      let seen := st.seen.getD c 0
      (⟨(r.outcome ⟨c, st.calls, seen⟩).answer, []⟩,
        { calls := st.calls + 1, seen := st.seen.insert c (seen + 1) })

end DeltaDebug.Scripted
