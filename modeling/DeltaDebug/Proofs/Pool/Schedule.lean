import DeltaDebug.Proofs.Pool.Board

/-
  A pool never gets stuck. Whatever moves were made, each worker can be brought to its end by moves
  of its own, with answers that may be given (`Board.exists_leads_done`); so every scan can be
  played to an end (`exists_play`). In particular there is a legal schedule for every deterministic
  oracle (`exists_legal`): what is said of all legal schedules is never said of none.
-/

namespace DeltaDebug.Pool

variable {σ : Type} {count : Nat} {confirm : Bool}

/-- How many moves a worker may still make. -/
def Worker.rank : Worker → Nat
  | .idle => 4
  | .calling => 3
  | .confirming => 2
  | .failed _ => 1
  | .done _ => 0

namespace Board

/-- The moves lead from one board to another, and their answers are those of `g`. -/
def Leads (confirm : Bool) (g : Fin count → Answer) (b : Board count) (ms : List (Move count))
    (b' : Board count) : Prop :=
  b.playAll confirm ms = some b' ∧ ∀ i a, Move.answer i a ∈ ms → a = g i

variable {g : Fin count → Answer} {b b1 b' : Board count}

theorem leads_nil (b : Board count) : b.Leads confirm g [] b := ⟨rfl, nofun⟩

theorem Leads.cons {m : Move count} {ms : List (Move count)} (hplay : b.play confirm m = some b1)
    (hm : ∀ i a, m = .answer i a → a = g i) (h : b1.Leads confirm g ms b') :
    b.Leads confirm g (m :: ms) b' := by
  refine ⟨?_, fun i a hmem => ?_⟩
  · rw [playAll, hplay]
    exact h.1
  · rcases List.mem_cons.mp hmem with he | hmem
    · exact hm i a he.symm
    · exact h.2 i a hmem

theorem Leads.append {ms ms' : List (Move count)} (h : b.Leads confirm g ms b1)
    (h' : b1.Leads confirm g ms' b') : b.Leads confirm g (ms ++ ms') b' := by
  induction ms generalizing b with
  | nil =>
    obtain rfl : b = b1 := Option.some.inj h.1
    exact h'
  | cons m ms ih =>
    obtain ⟨b2, hplay, hrest⟩ := Option.bind_eq_some_iff.mp h.1
    refine Leads.cons hplay (fun i a hm => h.2 i a (hm ▸ List.mem_cons_self)) ?_
    exact ih ⟨hrest, fun i a hmem => h.2 i a (List.mem_cons_of_mem _ hmem)⟩

/-- Moves are allowed, wherever they lead, if their answers may be given. -/
theorem allAllowed_of_answers {may : Fin count → Answer → Prop} {ms : List (Move count)}
    (h : ∀ i a, Move.answer i a ∈ ms → may i a) (b : Board count) :
    b.AllAllowed confirm may ms := by
  induction ms generalizing b with
  | nil => trivial
  | cons m ms ih =>
    refine ⟨?_, fun b2 _ => ih (fun i a hmem => h i a (List.mem_cons_of_mem _ hmem)) b2⟩
    cases m with
    | answer i a => exact Or.inl (h i a List.mem_cons_self)
    | start i => trivial
    | publish i => trivial

theorem Leads.allAllowed {ms : List (Move count)} (h : b.Leads confirm g ms b') :
    b.AllAllowed confirm (fun i a => a = g i) ms :=
  allAllowed_of_answers h.2 b

/-- Moves stay allowed if more answers may be given. -/
theorem AllAllowed.mono {may may' : Fin count → Answer → Prop} {ms : List (Move count)}
    (h : b.AllAllowed confirm may ms) (hmay : ∀ i a, may i a → may' i a) :
    b.AllAllowed confirm may' ms := by
  induction ms generalizing b with
  | nil => trivial
  | cons m ms ih =>
    refine ⟨?_, fun b' hb' => ih (h.2 b' hb')⟩
    cases m with
    | answer i a => exact h.1.imp_left (hmay i a)
    | start i => trivial
    | publish i => trivial

/-! ## Workers come to their ends -/

/-- An answer takes the worker that waits for it further. -/
theorem rank_afterAnswer (confirm : Bool) {w : Worker} (a : Answer)
    (h : w = .calling ∨ w = .confirming) :
    ∃ w', afterAnswer confirm w a = some w' ∧ w'.rank < w.rank := by
  rcases h with rfl | rfl
  · rcases a with e | _ | v
    · exact ⟨.done (.error e), rfl, by simp only [Worker.rank]; omega⟩
    · exact ⟨_, rfl, by decide⟩
    · cases v <;> cases confirm <;> exact ⟨_, rfl, by decide⟩
  · rcases a with e | _ | v
    · exact ⟨.done (.error e), rfl, by simp only [Worker.rank]; omega⟩
    · exact ⟨_, rfl, by decide⟩
    · cases v <;> exact ⟨_, rfl, by decide⟩

/-- A worker that is not done has a move, which takes it further and leaves the others alone. -/
theorem exists_move (confirm : Bool) (g : Fin count → Answer) (b : Board count) (i : Fin count)
    (h : ∀ r, b.worker i ≠ .done r) :
    ∃ m b', b.play confirm m = some b' ∧ (∀ j a, m = .answer j a → a = g j) ∧
      (b'.worker i).rank < (b.worker i).rank ∧ ∀ j, j ≠ i → b'.worker j = b.worker j := by
  have hset : ∀ w, w.rank < (b.worker i).rank →
      ((b.setWorker i w).worker i).rank < (b.worker i).rank ∧
        ∀ j, j ≠ i → (b.setWorker i w).worker j = b.worker j := by
    intro w hw
    exact ⟨by rw [setWorker_self]; exact hw, fun j hj => b.setWorker_ne w hj⟩
  have hanswer : b.worker i = .calling ∨ b.worker i = .confirming →
      ∃ m b', b.play confirm m = some b' ∧ (∀ j a, m = .answer j a → a = g j) ∧
        (b'.worker i).rank < (b.worker i).rank ∧ ∀ j, j ≠ i → b'.worker j = b.worker j := by
    intro hwait
    obtain ⟨w, hw, hlt⟩ := rank_afterAnswer confirm (g i) hwait
    refine ⟨.answer i (g i), { b.setWorker i w with calls := (i, g i) :: b.calls }, ?_, ?_,
      hset w hlt⟩
    · simp only [play, hw, Option.map_some]
    · intro j a he
      cases he
      rfl
  cases hw : b.worker i with
  | idle =>
    refine ⟨.start i, b.setWorker i
      (if superseded b.lowest i then .done (.ok (.abandoned 0)) else .calling),
      by simp only [play, hw], (fun _ _ he => by cases he), ?_⟩
    rw [← hw]
    refine hset _ ?_
    rw [hw]
    split <;> decide
  | calling => rw [← hw]; exact hanswer (Or.inl hw)
  | confirming => rw [← hw]; exact hanswer (Or.inr hw)
  | failed p =>
    refine ⟨.publish i, { b.setWorker i (.done (.ok p)) with lowest := lower b.lowest i (.ok p) },
      by simp only [play, hw], (fun _ _ he => by cases he), ?_⟩
    rw [← hw]
    refine hset _ ?_
    rw [hw]
    exact Nat.zero_lt_one
  | done r => exact absurd hw (h r)

/-- Moves of its own bring a worker to its end, wherever it is. -/
theorem exists_leads_done (confirm : Bool) (g : Fin count → Answer) (b : Board count)
    (i : Fin count) :
    ∃ ms b', b.Leads confirm g ms b' ∧ (∃ r, b'.worker i = .done r) ∧
      ∀ j, j ≠ i → b'.worker j = b.worker j := by
  by_cases hdone : ∃ r, b.worker i = .done r
  · exact ⟨[], b, leads_nil b, hdone, fun _ _ => rfl⟩
  · obtain ⟨m, b1, hplay, hm, hlt, hframe⟩ :=
      exists_move confirm g b i fun r hr => hdone ⟨r, hr⟩
    obtain ⟨ms, b', hleads, hend, hrest⟩ := exists_leads_done confirm g b1 i
    exact ⟨m :: ms, b', hleads.cons hplay hm, hend, fun j hj => (hrest j hj).trans (hframe j hj)⟩
termination_by (b.worker i).rank

/-- So can all workers of a list, one after the other; those that are done already stay so. -/
theorem exists_leads_all_done (confirm : Bool) (g : Fin count → Answer) (b : Board count)
    (is : List (Fin count)) :
    ∃ ms b', b.Leads confirm g ms b' ∧ ∀ i, i ∈ is ∨ (∃ r, b.worker i = .done r) →
      ∃ r, b'.worker i = .done r := by
  induction is generalizing b with
  | nil => exact ⟨[], b, leads_nil b, fun i hi => hi.resolve_left (by simp)⟩
  | cons k is ih =>
    obtain ⟨ms, b1, hleads, hk, hframe⟩ := exists_leads_done confirm g b k
    obtain ⟨ms', b', hleads', hdone⟩ := ih b1
    refine ⟨ms ++ ms', b', hleads.append hleads', fun i hi => hdone i ?_⟩
    by_cases hik : i = k
    · exact Or.inr (hik ▸ hk)
    · rw [hframe i hik]
      exact hi.imp_left fun hmem => (List.mem_cons.mp hmem).resolve_left hik

/-- If all workers are done, there are findings. -/
theorem exists_findings (b : Board count) (h : ∀ i, ∃ r, b.worker i = .done r) :
    ∃ found, b.findings? = some found := by
  unfold findings?
  generalize List.finRange count = is
  induction is with
  | nil => exact ⟨[], rfl⟩
  | cons i is ih =>
    obtain ⟨r, hr⟩ := h i
    obtain ⟨found, hfound⟩ := ih
    have hi : b.finding? i = some (i, r) := by simp only [finding?, hr]
    exact ⟨(i, r) :: found, by rw [List.mapM_cons, hi, hfound]; rfl⟩

end Board

/-! ## Legal schedules -/

/-- A scan can always be played to its end, with the answers of `g`. -/
theorem exists_play (confirm : Bool) (g : Fin count → Answer) :
    ∃ play : Play confirm count,
      Board.initial.AllAllowed confirm (fun i a => a = g i) play.moves := by
  obtain ⟨ms, b, hleads, hdone⟩ :=
    Board.exists_leads_all_done confirm g Board.initial (List.finRange count)
  obtain ⟨found, hfound⟩ := b.exists_findings fun i => hdone i (Or.inl (List.mem_finRange i))
  exact ⟨⟨ms, b, found, hleads.1, hfound⟩, hleads.allAllowed⟩

/-- Every deterministic oracle has a legal schedule. -/
theorem exists_legal (σ : Type) (confirm : Bool) (f : Candidate → Answer) :
    ∃ schedule : Schedule σ confirm, schedule.Legal fun c a => a = f c :=
  ⟨fun _ build _ => (exists_play confirm fun i => f (build i)).choose,
    fun _ build _ => (exists_play confirm fun i => f (build i)).choose_spec⟩

end DeltaDebug.Pool
