import DeltaDebug.Proofs.Account
import DeltaDebug.Proofs.Pool.Decision
import DeltaDebug.Proofs.Pool.Schedule
import Mathlib.Algebra.BigOperators.Fin

/-
  What a pool counts, and what its calls were. Each worker of a pool makes the calls of one inquiry,
  or none if it is superseded before it starts. However the moves are mixed, what the worker comes
  to follows from the answers to its own calls (`Worker.Answered`, `Board.answered_playAll`). The
  calls of a scan are those of its workers (`sum_countP_answersTo`), and going through the findings
  counts each of them once (`invocations_collect`).

  One kind of call is lost. If a worker sees a failure and its second call is an error, its finding
  is the error, which counts no call; and if a lower index fails, the search goes on. So a result
  counts the calls that came to a verdict, less one for each worker that was cut short in this way
  (`pool_completed_calls`). There may be such workers (`pool_loses_call`).
-/

namespace DeltaDebug

variable {σ : Type} {confirm : Bool}

/-! ## Inquiries -/

/-- The answers are a failure and then an error: the call that had to confirm it was not made. -/
def cutShort : List Answer → Bool
  | [.ok (some .fails), .error _] => true
  | _ => false

/-- The calls that a finding counts; an error counts none. -/
def counted : Except OracleError Probe → Nat
  | .ok p => p.invocations
  | .error _ => 0

/-- An inquiry completes the calls that its finding counts, and one more if it is cut short. -/
theorem Inquiry.countP_answers (q : Inquiry confirm) :
    q.answers.countP Answer.completed = counted q.finding + (cutShort q.answers).toNat := by
  obtain ⟨c, first, second, hs⟩ := q
  cases second with
  | none =>
    rcases first with e | _ | v
    · rfl
    · rfl
    · cases v <;> rfl
  | some a =>
    obtain ⟨rfl, rfl⟩ := hs.mp rfl
    rcases a with e | _ | v
    · rfl
    · rfl
    · cases v <;> rfl

theorem Inquiry.cutShort_eq_false {q : Inquiry confirm} {p : Probe} (h : q.finding = .ok p) :
    cutShort q.answers = false := by
  obtain ⟨c, first, second, hs⟩ := q
  cases second with
  | none =>
    rcases first with e | _ | v
    · rfl
    · rfl
    · cases v <;> rfl
  | some a =>
    obtain ⟨rfl, rfl⟩ := hs.mp rfl
    rcases a with e | v
    · cases h
    · rfl

namespace Pool

variable {count : Nat}

/-! ## Workers -/

/-- What the answers to a worker's calls have to do with how far it is. A worker that is done either
    made the calls of an inquiry and came to its finding, or made none. -/
def Worker.Answered (confirm : Bool) (as : List Answer) : Worker → Prop
  | .idle | .calling => as = []
  | .confirming => confirm = true ∧ as = [.ok (some .fails)]
  | .failed p => ∃ q : Inquiry confirm, q.answers = as ∧ q.finding = .ok p
  | .done r => (as = [] ∧ r = .ok (.abandoned 0)) ∨
      ∃ q : Inquiry confirm, q.answers = as ∧ q.finding = r

theorem Worker.Answered.afterAnswer {as : List Answer} {w w' : Worker} {a : Answer}
    (hw : w.Answered confirm as) (h : Board.afterAnswer confirm w a = some w') :
    w'.Answered confirm (as ++ [a]) := by
  cases w with
  | calling =>
    obtain rfl : as = [] := hw
    rcases a with e | _ | v
    · cases h
      exact Or.inr ⟨⟨[], .error e, none, by simp⟩, rfl, rfl⟩
    · cases h
      exact Or.inr ⟨⟨[], .ok none, none, by simp⟩, rfl, rfl⟩
    · cases v with
      | passes => cases h; exact Or.inr ⟨⟨[], .ok (some .passes), none, by simp⟩, rfl, rfl⟩
      | unresolved => cases h; exact Or.inr ⟨⟨[], .ok (some .unresolved), none, by simp⟩, rfl, rfl⟩
      | fails =>
        cases confirm with
        | true => cases h; exact ⟨rfl, rfl⟩
        | false => cases h; exact ⟨⟨[], .ok (some .fails), none, by simp⟩, rfl, rfl⟩
  | confirming =>
    obtain ⟨rfl, rfl⟩ := hw
    rcases a with e | _ | v
    · cases h
      exact Or.inr ⟨⟨[], .ok (some .fails), some (.error e), by simp⟩, rfl, rfl⟩
    · cases h
      exact Or.inr ⟨⟨[], .ok (some .fails), some (.ok none), by simp⟩, rfl, rfl⟩
    · cases v with
      | passes =>
        cases h
        exact Or.inr ⟨⟨[], .ok (some .fails), some (.ok (some .passes)), by simp⟩, rfl, rfl⟩
      | unresolved =>
        cases h
        exact Or.inr ⟨⟨[], .ok (some .fails), some (.ok (some .unresolved)), by simp⟩, rfl, rfl⟩
      | fails =>
        cases h
        exact ⟨⟨[], .ok (some .fails), some (.ok (some .fails)), by simp⟩, rfl, rfl⟩
  | idle => cases h
  | failed p => cases h
  | done r => cases h

/-- A worker that is done completed the calls that its finding counts, and one more if it was cut
    short. -/
theorem Worker.Answered.countP_of_done {as : List Answer} {r : Except OracleError Probe}
    (h : (Worker.done r).Answered confirm as) :
    as.countP Answer.completed = counted r + (cutShort as).toNat := by
  rcases h with ⟨rfl, rfl⟩ | ⟨q, rfl, rfl⟩
  · rfl
  · exact q.countP_answers

/-! ## Boards -/

namespace Board

variable {b b' : Board count}

/-- The answers to the calls of one worker, in their order. -/
def answersTo (b : Board count) (i : Fin count) : List Answer :=
  b.calls.reverse.filterMap fun call => if call.1 = i then some call.2 else none

theorem answersTo_answer (b : Board count) (i j : Fin count) (w : Worker) (a : Answer) :
    answersTo { b.setWorker i w with calls := (i, a) :: b.calls } j =
      b.answersTo j ++ if i = j then [a] else [] := by
  unfold answersTo
  rw [List.reverse_cons, List.filterMap_append]
  by_cases h : i = j
  · simp [h]
  · simp [h]

theorem answered_play {m : Move count}
    (hb : ∀ j, (b.worker j).Answered confirm (b.answersTo j)) (h : b.play confirm m = some b') :
    ∀ j, (b'.worker j).Answered confirm (b'.answersTo j) := by
  intro j
  have hj := hb j
  obtain ⟨i, rfl, hi, rfl⟩ | ⟨i, a, w, rfl, hi, rfl⟩ | ⟨i, p, rfl, hi, rfl⟩ := play_cases h
  · by_cases hji : j = i
    · subst hji
      rw [hi] at hj
      rw [setWorker_self]
      split
      · exact Or.inl ⟨hj, rfl⟩
      · exact hj
    · rw [b.setWorker_ne _ hji]
      exact hj
  · rw [answersTo_answer]
    by_cases hji : j = i
    · subst hji
      rw [if_pos rfl]
      change ((b.setWorker j w).worker j).Answered confirm _
      rw [setWorker_self]
      exact hj.afterAnswer hi
    · rw [if_neg (Ne.symm hji), List.append_nil]
      change ((b.setWorker i w).worker j).Answered confirm _
      rw [b.setWorker_ne _ hji]
      exact hj
  · by_cases hji : j = i
    · subst hji
      rw [hi] at hj
      change ((b.setWorker j (.done (.ok p))).worker j).Answered confirm _
      rw [setWorker_self]
      exact Or.inr hj
    · change ((b.setWorker i (.done (.ok p))).worker j).Answered confirm _
      rw [b.setWorker_ne _ hji]
      exact hj

/-- Every list of moves keeps it, whatever the answers are. -/
theorem answered_playAll {ms : List (Move count)}
    (hb : ∀ j, (b.worker j).Answered confirm (b.answersTo j))
    (h : b.playAll confirm ms = some b') :
    ∀ j, (b'.worker j).Answered confirm (b'.answersTo j) := by
  induction ms generalizing b with
  | nil =>
    cases h
    exact hb
  | cons m ms ih =>
    obtain ⟨b1, hb1, h⟩ := Option.bind_eq_some_iff.mp h
    exact ih (answered_play hb hb1) h

/-- The calls on a board are those of its workers. -/
theorem sum_countP_answersTo (b : Board count) (p : Answer → Bool) :
    ∑ i, (b.answersTo i).countP p = b.calls.countP fun call => p call.2 := by
  unfold answersTo
  rw [← List.countP_reverse]
  generalize b.calls.reverse = calls
  induction calls with
  | nil => simp
  | cons call calls ih =>
    have hone : ∀ i, (List.filterMap (fun call => if call.1 = i then some call.2 else none)
        (call :: calls)).countP p =
          (if call.1 = i then (p call.2).toNat else 0) +
            (calls.filterMap fun call => if call.1 = i then some call.2 else none).countP p := by
      intro i
      by_cases h : call.1 = i
      · cases hp : p call.2 <;> simp [h, hp, Nat.add_comm]
      · simp [h]
    rw [Finset.sum_congr rfl fun i _ => hone i, Finset.sum_add_distrib, Finset.sum_ite_eq, ih]
    cases hp : p call.2 <;> simp [hp, Nat.add_comm]

end Board

/-! ## Plays -/

theorem Play.answered (play : Play confirm count) {x : Finding count} (hx : x ∈ play.found) :
    (Worker.done x.2).Answered confirm (play.board.answersTo x.1) := by
  have hall : ∀ j, (play.board.worker j).Answered confirm (play.board.answersTo j) :=
    Board.answered_playAll (b := Board.initial) (fun _ => rfl) play.board_eq
  have hdone := (findings?_spec play.found_eq).2 x hx
  have hworker := hall x.1
  rw [hdone] at hworker
  exact hworker

/-- How many workers of the play were cut short. -/
def Play.cutShort (play : Play confirm count) : Nat :=
  ∑ i, (DeltaDebug.cutShort (play.board.answersTo i)).toNat

/-- The calls of a play that came to a verdict are those that its findings count, and one more for
    each worker that was cut short. -/
theorem Play.completed (play : Play confirm count) :
    (play.board.calls.countP fun call => call.2.completed) =
      (play.found.map fun x => counted x.2).sum + play.cutShort := by
  obtain ⟨hmap, _⟩ := findings?_spec play.found_eq
  have hsum : ∀ g : Fin count → Nat, ∑ i, g i = (play.found.map fun x => g x.1).sum := by
    intro g
    rw [Fin.sum_univ_def, ← hmap, List.map_map]
    rfl
  unfold Play.cutShort
  rw [← Board.sum_countP_answersTo, hsum, hsum, ← List.sum_map_add]
  congr 1
  refine List.map_congr_left fun x hx => ?_
  exact (play.answered hx).countP_of_done

/-- Going through the findings counts each of them, and makes no calls. -/
theorem invocations_collect {found : Option (Fin count)} {rest : List (Finding count)}
    {s s' : Session σ} {x : Option (Fin count)} (h : collect found rest s = (.ok x, s')) :
    s'.calls = s.calls ∧
      s'.tally.invocations = s.tally.invocations + (rest.map fun y => counted y.2).sum := by
  induction rest generalizing found s with
  | nil =>
    cases h
    exact ⟨rfl, rfl⟩
  | cons y rest ih =>
    obtain ⟨i, r⟩ := y
    rw [List.map_cons, List.sum_cons]
    cases r with
    | ok p =>
      obtain ⟨hcalls, hinvocations⟩ := ih h
      have hp : (s.record p).tally.invocations = s.tally.invocations + p.invocations := by
        unfold Session.record Tally.record
        dsimp only
        split <;> rfl
      refine ⟨hcalls, ?_⟩
      rw [hinvocations, hp, Nat.add_assoc]
      rfl
    | error e =>
      rw [collect] at h
      split at h
      · obtain ⟨hcalls, hinvocations⟩ := ih h
        refine ⟨hcalls.trans (s.calls_note _), ?_⟩
        rw [hinvocations]
        exact congrArg _ (Nat.zero_add _).symm
      · cases h

/-! ## Batches -/

/-- What a search asks at a time: about one candidate, or about several with the help of the
    pool. -/
inductive Batch (confirm : Bool) where
  | alone (q : Inquiry confirm)
  | pooled {count : Nat} (build : Fin count → Candidate) (play : Play confirm count)

namespace Batch

/-- The calls of a batch, in their order. -/
def calls : Batch confirm → List (Candidate × Answer)
  | .alone q => q.calls
  | .pooled build play => play.board.calls.reverse.map fun call => (build call.1, call.2)

/-- How many probes of the batch were cut short. -/
def cutShort : Batch confirm → Nat
  | .alone q => (DeltaDebug.cutShort q.answers).toNat
  | .pooled _ play => play.cutShort

/-- The workers of the batch move as the schedule says. -/
def Scheduled (schedule : Schedule σ confirm) : Batch confirm → Prop
  | .alone _ => True
  | @Batch.pooled _ count build play => ∃ s, schedule count build s = play

end Batch

/-- Between the two sessions the batches were made. Their calls that came to a verdict were counted,
    but for one of each probe that was cut short. -/
structure Batched (schedule : Schedule σ confirm) (s : Session σ) (batches : List (Batch confirm))
    (s' : Session σ) : Prop where
  calls : s'.calls = s.calls ++ batches.flatMap Batch.calls
  scheduled : ∀ batch ∈ batches, batch.Scheduled schedule
  completed : s.tally.invocations + completedIn (batches.flatMap Batch.calls) =
    s'.tally.invocations + (batches.map Batch.cutShort).sum

namespace Batched

variable {schedule : Schedule σ confirm} {s s1 s' : Session σ}

theorem append {batches batches' : List (Batch confirm)} (h : Batched schedule s batches s1)
    (h' : Batched schedule s1 batches' s') : Batched schedule s (batches ++ batches') s' := by
  have hcompleted := h.completed
  have hcompleted' := h'.completed
  refine ⟨?_, ?_, ?_⟩
  · rw [h'.calls, h.calls, List.flatMap_append, List.append_assoc]
  · intro batch hbatch
    exact (List.mem_append.mp hbatch).elim (h.scheduled batch) (h'.scheduled batch)
  · rw [List.flatMap_append, completedIn_append, List.map_append, List.sum_append]
    omega

/-- What is asked without the pool is counted in full. -/
theorem of_accounted {qs : List (Inquiry confirm)} (h : Accounted s qs s') :
    Batched schedule s (qs.map .alone) s' := by
  have hcalls : (qs.map Batch.alone).flatMap Batch.calls = qs.flatMap Inquiry.calls :=
    List.flatMap_map ..
  have hzero : ((qs.map Batch.alone).map Batch.cutShort).sum = 0 := by
    refine List.sum_eq_zero fun n hn => ?_
    obtain ⟨batch, hbatch, rfl⟩ := List.mem_map.mp hn
    obtain ⟨q, hq, rfl⟩ := List.mem_map.mp hbatch
    obtain ⟨p, hp⟩ := h.findings q hq
    exact congrArg Bool.toNat (q.cutShort_eq_false hp)
  refine ⟨?_, ?_, ?_⟩
  · rw [hcalls]
    exact h.calls
  · intro batch hbatch
    obtain ⟨q, _, rfl⟩ := List.mem_map.mp hbatch
    trivial
  · rw [hcalls, hzero]
    exact h.invocations.symm

/-- A scan by the pool is one batch. -/
theorem of_collect {count : Nat} {build : Fin count → Candidate} {x : Option (Fin count)}
    (h : collect none (schedule count build s).found
      { s with trace := ((schedule count build s).board.calls.map fun (i, a) =>
        Entry.call (build i) a) ++ s.trace } = (.ok x, s')) :
    Batched schedule s [.pooled build (schedule count build s)] s' := by
  obtain ⟨hcalls, hinvocations⟩ := invocations_collect h
  have hcompleted := (schedule count build s).completed
  refine ⟨?_, ?_, ?_⟩
  · rw [hcalls, List.flatMap_singleton]
    unfold Session.calls Batch.calls
    rw [List.reverse_append, List.filterMap_append, ← List.map_reverse, List.filterMap_map]
    congr 1
    exact congrFun List.filterMap_eq_map _
  · intro batch hbatch
    obtain rfl := List.mem_singleton.mp hbatch
    exact ⟨s, rfl⟩
  · have hcount : completedIn (Batch.pooled build (schedule count build s)).calls =
        (schedule count build s).board.calls.countP fun call => call.2.completed := by
      unfold completedIn Batch.calls
      rw [List.countP_map, List.countP_reverse]
      rfl
    rw [List.flatMap_singleton, hcount, hcompleted, hinvocations, List.map_singleton,
      List.sum_singleton]
    exact (Nat.add_assoc ..).symm

end Batched

/-- All that a search by a pool does is made of batches, as long as there is no error. -/
theorem links_batched (o : Oracle σ) (schedule : Schedule σ confirm) :
    (scanBy o schedule).Links fun s s' => ∃ batches, Batched schedule s batches s' where
  refl s := ⟨_, .of_accounted (.nil rfl rfl rfl rfl)⟩
  trans := fun ⟨batches, h⟩ ⟨batches', h'⟩ => ⟨batches ++ batches', h.append h'⟩
  note s e := by
    obtain ⟨_, h⟩ := (links_accounted o confirm).note s e
    exact ⟨_, .of_accounted h⟩
  proceed s st r := by
    obtain ⟨_, h⟩ := (links_accounted o confirm).proceed s st r
    exact ⟨_, .of_accounted h⟩
  scan := by
    intro count build s x s' h
    unfold scanBy at h
    split at h
    · obtain ⟨_, h⟩ := (links_accounted o confirm).scan h
      exact ⟨_, .of_accounted h⟩
    · exact ⟨_, .of_collect h⟩

end Pool

/-- **A pool counts the calls that came to a verdict, but for those of probes that were cut short.**
    Against any oracle, and however the workers mix their moves, the calls of a search with a result
    are those of its batches, one after the other. The result counts all of them that came to a
    verdict, less one for each probe whose first call saw a failure and whose second was an error.
    So it counts all of them exactly if there is no such probe. -/
theorem pool_completed_calls (o : Oracle σ) (opts : Options)
    (schedule : Pool.Schedule σ opts.doubleCheck) (input : Candidate) (s s' : Session σ)
    (r : Result)
    (h : minimizeWith (Pool.scanBy o schedule) opts o input { s with tally := {} } = (.ok r, s')) :
    ∃ batches : List (Pool.Batch opts.doubleCheck),
      s'.calls = s.calls ++ batches.flatMap Pool.Batch.calls ∧
      (∀ batch ∈ batches, batch.Scheduled schedule) ∧
      completedIn (batches.flatMap Pool.Batch.calls) =
        r.invocationCount + (batches.map Pool.Batch.cutShort).sum ∧
      (r.invocationCount = completedIn (batches.flatMap Pool.Batch.calls) ↔
        ∀ batch ∈ batches, batch.cutShort = 0) := by
  have hverify : ∀ {s1}, verify opts o input { s with tally := {} } = (.ok (), s1) →
      ∃ batches, Pool.Batched schedule { s with tally := {} } batches s1 := by
    intro s1 hv
    obtain ⟨_, hq⟩ := accounted_verify hv
    exact ⟨_, .of_accounted hq⟩
  obtain ⟨⟨batches, hbatched⟩, hr⟩ := (Pool.links_batched o schedule).minimizeWith hverify h
  have hcount : r.invocationCount = s'.tally.invocations := by
    rw [hr]
    rfl
  have hcompleted := hbatched.completed
  simp only [Nat.zero_add] at hcompleted
  rw [← hcount] at hcompleted
  refine ⟨batches, hbatched.calls, hbatched.scheduled, hcompleted, ?_⟩
  rw [hcompleted, Nat.left_eq_add, List.sum_eq_zero_iff_forall_eq_nat, List.forall_mem_map]

/-- Both workers see a failure. The second cannot make its other call; only then does the first
    confirm its own failure, and the error is one to be ignored. -/
def Pool.overtaken : Pool.Play true 2 where
  moves := [.start 0, .start 1, .answer 1 (.ok (some .fails)),
    .answer 1 (.error (.spawn "target" "not found")), .answer 0 (.ok (some .fails)),
    .answer 0 (.ok (some .fails)), .publish 0]
  board := _
  found := [(0, .ok ⟨2, some .fails⟩), (1, .error (.spawn "target" "not found"))]
  board_eq := rfl
  found_eq := rfl

/-- Scans of two candidates go as in `overtaken`, all others as the schedule says. -/
def Pool.Schedule.overtaking (schedule : Pool.Schedule σ true) : Pool.Schedule σ true
  | 2, _, _ => Pool.overtaken
  | count, build, s => schedule count build s

/-- The oracle may give all answers there, and no call is abandoned. -/
theorem exists_legal_overtaking : ∃ schedule : Pool.Schedule (List Answer) true,
    schedule.overtaking.Legal fun c a => a ≠ .ok none ∧ Oracle.replaying.Gives c a := by
  have hgives : ∀ c a, Oracle.replaying.Gives c a := fun _ a => ⟨[a], rfl⟩
  obtain ⟨schedule, legal⟩ := Pool.exists_legal (List Answer) true fun _ => .ok (some .passes)
  refine ⟨schedule, fun count build s => ?_⟩
  unfold Pool.Schedule.overtaking
  split
  · refine Pool.Board.allAllowed_of_answers (fun i a hmem => ⟨?_, hgives _ a⟩) _
    rintro rfl
    simp [Pool.overtaken] at hmem
  · refine (legal _ _ _).mono fun i a ha => ⟨?_, hgives _ a⟩
    rw [ha]
    nofun

/-- How a minimization with such a scan ends: four calls came to a verdict, one was an error. -/
def Session.overtaken : Session (List Answer) where
  oracle := []
  tally := { invocations := 3, cancelled := 1, complementReductions := 1 }
  trace := [.event (.finished 2 1 3 0), .call [] (.ok (some .passes)), .event (.probingRound 1 1),
    .event (.reducedCandidate .complement 0 2 1),
    .event (.errorIgnored 1 (.spawn "target" "not found")), .call [98] (.ok (some .fails)),
    .call [98] (.ok (some .fails)), .call [97] (.error (.spawn "target" "not found")),
    .call [97] (.ok (some .fails)), .event (.probingRound 2 2)]

theorem minimize_overtaking (schedule : Pool.Schedule (List Answer) true) :
    minimizeWith (Pool.scanBy Oracle.replaying schedule.overtaking) ⟨2, true, false⟩
        Oracle.replaying [97, 98] (Session.start []) =
      (.ok ⟨[98], 2, 1, 3, 0, 1, 0, 0, 1⟩, Session.overtaken) := by
  cbv

/-- One probe is cut short, and the result counts one call less than were completed. -/
theorem pool_completed_calls_overtaking :
    ∃ (schedule : Pool.Schedule (List Answer) true) (r : Result)
      (batches : List (Pool.Batch true)),
      minimizeWith (Pool.scanBy Oracle.replaying schedule) ⟨2, true, false⟩ Oracle.replaying
        [97, 98] (Session.start []) = (.ok r, Session.overtaken) ∧
      Session.overtaken.calls = batches.flatMap Pool.Batch.calls ∧ r.invocationCount = 3 ∧
      (batches.map Pool.Batch.cutShort).sum = 1 := by
  obtain ⟨schedule, _⟩ := exists_legal_overtaking
  have h := minimize_overtaking schedule
  obtain ⟨batches, hcalls, _, hsum, _⟩ := pool_completed_calls Oracle.replaying ⟨2, true, false⟩
    schedule.overtaking [97, 98] (Session.start []) _ _ h
  have hall : Session.overtaken.calls = batches.flatMap Pool.Batch.calls := hcalls
  have hfour : completedIn Session.overtaken.calls = 3 + 1 := rfl
  rw [← hall, hfour] at hsum
  exact ⟨_, _, batches, h, hall, rfl, (Nat.add_left_cancel hsum).symm⟩

/-- **A call is lost.** There is a legal way for the workers to move, with no call abandoned, such
    that four calls come to a verdict and the result counts three. -/
theorem pool_loses_call :
    ∃ schedule : Pool.Schedule (List Answer) true,
      (schedule.Legal fun c a => a ≠ .ok none ∧ Oracle.replaying.Gives c a) ∧
      ∃ r s', minimizeWith (Pool.scanBy Oracle.replaying schedule) ⟨2, true, false⟩
          Oracle.replaying [97, 98] (Session.start []) = (.ok r, s') ∧
        r.invocationCount = 3 ∧ completedIn s'.calls = 4 := by
  obtain ⟨schedule, legal⟩ := exists_legal_overtaking
  exact ⟨_, legal, _, _, minimize_overtaking schedule, rfl, rfl⟩

end DeltaDebug
