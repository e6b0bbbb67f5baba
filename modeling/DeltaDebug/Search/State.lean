import DeltaDebug.Partition

/-
  Where a search stands between two rounds, and what a round comes to.
-/

namespace DeltaDebug

/-- All that one round hands to the next: the candidate, and into how many chunks to split it. -/
structure State where
  candidate : Candidate
  granularity : Nat
deriving DecidableEq

/-- A search starts with halves. -/
def State.initial (input : Candidate) : State := ⟨input, 2⟩

/-- The two ways of making a candidate smaller. -/
inductive Phase where
  /-- One chunk is deleted. -/
  | complement
  /-- One chunk is kept. -/
  | subset
deriving DecidableEq

def Phase.name : Phase → String
  | .complement => "complement"
  | .subset => "subset"

/-- What a round comes to. -/
inductive Step where
  /-- A smaller candidate still fails and is adopted. -/
  | reduced (phase : Phase) (index : Nat) (next : State)
  /-- Nothing smaller fails; the next round uses more, smaller chunks. -/
  | refined (granularity : Nat)
  /-- Nothing smaller fails, and the chunks are single bytes. -/
  | done
deriving DecidableEq

/-- The state after a round. -/
def State.after (st : State) : Step → State
  | .reduced _ _ next => next
  | .refined g => { st with granularity := g }
  | .done => st

end DeltaDebug
