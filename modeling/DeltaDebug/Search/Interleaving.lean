import DeltaDebug.Search.Pool

/-
  A scan by a pool, move by move. Each index of the scan has a worker. A worker looks at the lowest
  failing index when it starts, waits for the answers to its calls, and publishes its index if it
  failed. The workers' moves may be mixed in any order; a list of moves is one such order, and
`scanBy` is the scan that comes of a choice of such lists.
-/

namespace DeltaDebug.Pool

variable {count : Nat}

/-- How far a worker is. -/
inductive Worker where
  /-- It has not been started. -/
  | idle
  /-- Its first call is under way. -/
  | calling
  /-- Its first call saw a failure, and the call that has to confirm it is under way. -/
  | confirming
  /-- Its probe failed, which the others do not know yet. -/
  | failed (p : Probe)
  /-- It is done. -/
  | done (r : Except OracleError Probe)

/-- One move of one worker. -/
inductive Move (count : Nat) where
  /-- Looks at the lowest failing index, and makes its first call or gives up. -/
  | start (i : Fin count)
  /-- The call under way returns. -/
  | answer (i : Fin count) (a : Answer)
  /-- Lowers the lowest failing index. -/
  | publish (i : Fin count)

/-- What the workers share, and how far each of them is. -/
structure Board (count : Nat) where
  lowest : Option (Fin count)
  worker : Fin count → Worker
  /-- The calls that returned, last first. -/
  calls : List (Fin count × Answer)

namespace Board

/-- The board before the first move. -/
def initial : Board count := ⟨none, fun _ => .idle, []⟩

def setWorker (b : Board count) (i : Fin count) (w : Worker) : Board count :=
  { b with worker := fun j => if j = i then w else b.worker j }

/-- A worker after the answer to its call; `none` if no call is under way. -/
def afterAnswer (confirm : Bool) : Worker → Answer → Option Worker
  | .calling, .error e => some (.done (.error e))
  | .calling, .ok none => some (.done (.ok (.abandoned 0)))
  | .calling, .ok (some .fails) =>
    some (if confirm then .confirming else .failed ⟨1, some .fails⟩)
  | .calling, .ok (some v) => some (.done (.ok ⟨1, some v⟩))
  | .confirming, .error e => some (.done (.error e))
  | .confirming, .ok none => some (.done (.ok (.abandoned 1)))
  | .confirming, .ok (some .fails) => some (.failed ⟨2, some .fails⟩)
  | .confirming, .ok (some _) => some (.done (.ok ⟨2, some .unresolved⟩))
  | _, _ => none

/-- The board after a move, if the move can be made. -/
def play (confirm : Bool) (b : Board count) : Move count → Option (Board count)
  | .start i =>
    match b.worker i with
    | .idle =>
      some (b.setWorker i
        (if superseded b.lowest i then .done (.ok (.abandoned 0)) else .calling))
    | _ => none
  | .answer i a =>
    (afterAnswer confirm (b.worker i) a).map fun w =>
      { b.setWorker i w with calls := (i, a) :: b.calls }
  | .publish i =>
    match b.worker i with
    | .failed p => some { b.setWorker i (.done (.ok p)) with lowest := lower b.lowest i (.ok p) }
    | _ => none

/-- The board after a list of moves, if all of them can be made. -/
def playAll (confirm : Bool) : Board count → List (Move count) → Option (Board count)
  | b, [] => some b
  | b, m :: rest => (b.play confirm m).bind fun b => b.playAll confirm rest

/-- What became of an index whose worker is done. -/
def finding? (b : Board count) (i : Fin count) : Option (Finding count) :=
  match b.worker i with
  | .done r => some (i, r)
  | _ => none

/-- What became of all indices, in their order; `none` while a worker is not done. -/
def findings? (b : Board count) : Option (List (Finding count)) :=
  (List.finRange count).mapM b.finding?

/-- Whether a move is an answer that an oracle may give: one that `may` allows, or an abandoned
call while an index below is known to fail. -/
def Allowed (may : Fin count → Answer → Prop) (b : Board count) : Move count → Prop
  | .answer i a => may i a ∨ (a = .ok none ∧ superseded b.lowest i = true)
  | _ => True

/-- Every move of a list is allowed at its turn. -/
def AllAllowed (confirm : Bool) (may : Fin count → Answer → Prop) :
    Board count → List (Move count) → Prop
  | _, [] => True
  | b, m :: rest =>
    b.Allowed may m ∧ ∀ b', b.play confirm m = some b' → b'.AllAllowed confirm may rest

end Board

/-- One way for the workers of a scan to come to their ends. -/
structure Play (confirm : Bool) (count : Nat) where
  moves : List (Move count)
  board : Board count
  found : List (Finding count)
  board_eq : Board.initial.playAll confirm moves = some board
  found_eq : board.findings? = some found

/-- How the workers mix their moves in each scan of a search. It may depend on all that happened
before. -/
abbrev Schedule (σ : Type) (confirm : Bool) :=
  (count : Nat) → (Fin count → Candidate) → Session σ → Play confirm count

/-- Whether all answers in a schedule are such that an oracle may give them: those that `may`
allows for a candidate, and abandoned calls of superseded workers. -/
def Schedule.Legal {σ : Type} {confirm : Bool} (schedule : Schedule σ confirm)
    (may : Candidate → Answer → Prop) : Prop :=
  ∀ (count : Nat) (build : Fin count → Candidate) (s : Session σ),
    Board.initial.AllAllowed confirm (fun i a => may (build i) a) (schedule count build s).moves

/-- The scan by a pool whose workers move as the schedule says. A single candidate is probed
without the pool. -/
def scanBy {σ : Type} (o : Oracle σ) {confirm : Bool} (schedule : Schedule σ confirm) : Scan σ :=
  fun count build s =>
    if count ≤ 1 then scanInOrder o confirm count build s
    else
      let play := schedule count build s
      let calls := play.board.calls.map fun (i, a) => Entry.call (build i) a
      collect none play.found { s with trace := calls ++ s.trace }

end DeltaDebug.Pool
