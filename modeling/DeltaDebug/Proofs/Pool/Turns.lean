import DeltaDebug.Proofs.Pool.Board

/-
  Workers that take turns make moves that may as well be mixed. A turn of a worker is an inquiry,
  from its start to the publication of a failure: `Board.exists_turn` says that its moves can be
  made on any board where the worker has not been started and is not superseded, and that they leave
  `Board.conclude`. Turn by turn, the findings of the pool that takes turns are the findings of a
  play, which makes the same calls (`exists_play_of_findings`).
-/

namespace DeltaDebug.Pool

variable {σ : Type} {count : Nat} {confirm : Bool}

/-- What is not a failure leaves the lowest failing index alone. -/
theorem lower_of_not_fails (lowest : Option (Fin count)) (i : Fin count)
    {r : Except OracleError Probe} (h : ∀ p, r = .ok p → p.fails = false) :
    lower lowest i r = lowest := by
  cases r with
  | error e => rfl
  | ok p => simp only [lower, h p rfl, Bool.false_eq_true, if_false]

namespace Board

/-! ## Lists of moves -/

theorem playAll_append (b : Board count) (ms ms' : List (Move count)) :
    b.playAll confirm (ms ++ ms') =
      (b.playAll confirm ms).bind fun b' => b'.playAll confirm ms' := by
  induction ms generalizing b with
  | nil => rfl
  | cons m ms ih =>
    rw [List.cons_append, playAll, playAll, Option.bind_assoc]
    exact congrArg _ (funext ih)

theorem setWorker_setWorker (b : Board count) (i : Fin count) (w w' : Worker) :
    (b.setWorker i w).setWorker i w' = b.setWorker i w' := by
  unfold setWorker
  congr 1
  funext j
  dsimp only
  split <;> rfl

/-! ## Turns -/

/-- A worker after the answers to its calls; `none` if it does not wait for one of them. -/
def afterAnswers (confirm : Bool) : Worker → List Answer → Option Worker
  | w, [] => some w
  | w, a :: as => (afterAnswer confirm w a).bind fun w' => afterAnswers confirm w' as

theorem playAll_answers (b : Board count) (i : Fin count) {w w' : Worker} {as : List Answer}
    (h : afterAnswers confirm w as = some w') :
    (b.setWorker i w).playAll confirm (as.map (.answer i)) =
      some { b.setWorker i w' with calls := (as.map fun a => (i, a)).reverse ++ b.calls } := by
  induction as generalizing b w with
  | nil =>
    cases h
    rfl
  | cons a as ih =>
    obtain ⟨w1, hw1, hrest⟩ := Option.bind_eq_some_iff.mp h
    have hplay : (b.setWorker i w).play confirm (.answer i a) =
        some ({ b with calls := (i, a) :: b.calls }.setWorker i w1) := by
      simp only [play, setWorker_self, hw1, Option.map_some, setWorker_setWorker]
      rfl
    rw [List.map_cons, playAll, hplay, Option.bind_some, ih _ hrest, List.map_cons,
      List.reverse_cons, List.append_assoc]
    rfl

/-- The answers of an inquiry bring a worker to its finding, which it has to publish if it is a
    failure. -/
theorem afterAnswers_inquiry (q : Inquiry confirm) :
    (afterAnswers confirm .calling q.answers = some (.done q.finding) ∧
      ∀ p, q.finding = .ok p → p.fails = false) ∨
    ∃ p, afterAnswers confirm .calling q.answers = some (.failed p) ∧ q.finding = .ok p := by
  obtain ⟨c, first, second, hs⟩ := q
  cases second with
  | none =>
    rcases first with e | _ | v
    · exact Or.inl ⟨rfl, nofun⟩
    · exact Or.inl ⟨rfl, fun p hp => by cases hp; rfl⟩
    · cases v with
      | passes => exact Or.inl ⟨rfl, fun p hp => by cases hp; rfl⟩
      | unresolved => exact Or.inl ⟨rfl, fun p hp => by cases hp; rfl⟩
      | fails =>
        obtain rfl : confirm = false := by simpa using hs
        exact Or.inr ⟨_, rfl, rfl⟩
  | some a =>
    obtain ⟨rfl, rfl⟩ := hs.mp rfl
    rcases a with e | _ | v
    · exact Or.inl ⟨rfl, nofun⟩
    · exact Or.inl ⟨rfl, fun p hp => by cases hp; rfl⟩
    · cases v with
      | passes => exact Or.inl ⟨rfl, fun p hp => by cases hp; rfl⟩
      | unresolved => exact Or.inl ⟨rfl, fun p hp => by cases hp; rfl⟩
      | fails => exact Or.inr ⟨_, rfl, rfl⟩

/-- The board after an inquiry of worker `i` and nothing else. -/
def conclude (b : Board count) (i : Fin count) (q : Inquiry confirm) : Board count where
  lowest := lower b.lowest i q.finding
  worker := (b.setWorker i (.done q.finding)).worker
  calls := (q.answers.map fun a => (i, a)).reverse ++ b.calls

theorem exists_turn {b : Board count} {i : Fin count} (hidle : b.worker i = .idle)
    (hs : superseded b.lowest i = false) (q : Inquiry confirm) :
    ∃ ms, b.playAll confirm ms = some (b.conclude i q) ∧
      ∀ j a, Move.answer j a ∈ ms → j = i ∧ a ∈ q.answers := by
  have hstart : b.play confirm (.start i) = some (b.setWorker i .calling) := by
    simp only [play, hidle, hs, Bool.false_eq_true, if_false]
  have hanswers : ∀ j a, Move.answer j a ∈ q.answers.map (.answer i) → j = i ∧ a ∈ q.answers := by
    intro j a hmem
    obtain ⟨a', ha', he⟩ := List.mem_map.mp hmem
    cases he
    exact ⟨rfl, ha'⟩
  obtain ⟨hdone, hpasses⟩ | ⟨p, hfailed, hp⟩ := afterAnswers_inquiry q
  · refine ⟨.start i :: q.answers.map (.answer i), ?_, ?_⟩
    · rw [playAll, hstart, Option.bind_some, playAll_answers b i hdone]
      unfold conclude
      rw [lower_of_not_fails b.lowest i hpasses]
      rfl
    · intro j a hmem
      exact hanswers j a ((List.mem_cons.mp hmem).resolve_left (by simp))
  · -- a failure takes one move more
    refine ⟨.start i :: (q.answers.map (.answer i) ++ [.publish i]), ?_, ?_⟩
    · rw [playAll, hstart, Option.bind_some, playAll_append, playAll_answers b i hfailed,
        Option.bind_some]
      have hpublish : ({ b.setWorker i (.failed p) with
          calls := (q.answers.map fun a => (i, a)).reverse ++ b.calls } : Board count).play confirm
            (.publish i) = some (b.conclude i q) := by
        unfold conclude
        rw [hp]
        simp only [play, setWorker, if_true]
        congr 2
        funext j
        split <;> rfl
      rw [playAll, hpublish]
      rfl
    · intro j a hmem
      have hmem' := (List.mem_cons.mp hmem).resolve_left (by simp)
      exact hanswers j a ((List.mem_append.mp hmem').resolve_right (by simp))

end Board

/-! ## Pools that take turns -/

/-- The moves lead from one board to another, on which the workers with a finding have come to it
    and all others are as before. The answers are such as the oracle gives, and the calls are those
    that were made between the two sessions. -/
structure Retraced (o : Oracle σ) (confirm : Bool) (build : Fin count → Candidate)
    (b : Board count) (s : Session σ) (found : List (Finding count)) (ms : List (Move count))
    (b' : Board count) (s' : Session σ) : Prop where
  leads : b.playAll confirm ms = some b'
  gives : ∀ i a, Move.answer i a ∈ ms → o.Gives (build i) a
  others : ∀ i, i ∉ found.map Prod.fst → b'.worker i = b.worker i
  done : ∀ x ∈ found, b'.worker x.1 = .done x.2
  calls : ∃ new : List (Fin count × Answer), b'.calls = new.reverse ++ b.calls ∧
    s'.calls = s.calls ++ new.map fun call => (build call.1, call.2)

namespace Retraced

variable {o : Oracle σ} {build : Fin count → Candidate} {b b1 b' : Board count}
  {s s1 s' : Session σ} {found found' : List (Finding count)} {ms ms' : List (Move count)}

theorem append (h : Retraced o confirm build b s found ms b1 s1)
    (h' : Retraced o confirm build b1 s1 found' ms' b' s')
    (hnodup : ((found ++ found').map Prod.fst).Nodup) :
    Retraced o confirm build b s (found ++ found') (ms ++ ms') b' s' := by
  rw [List.map_append] at hnodup
  obtain ⟨_, _, hdisjoint⟩ := List.nodup_append.mp hnodup
  obtain ⟨new, hnew, hcalls⟩ := h.calls
  obtain ⟨new', hnew', hcalls'⟩ := h'.calls
  refine ⟨?_, ?_, ?_, ?_, new ++ new', ?_, ?_⟩
  · rw [Board.playAll_append, h.leads]
    exact h'.leads
  · intro i a hmem
    exact (List.mem_append.mp hmem).elim (h.gives i a) (h'.gives i a)
  · intro i hi
    rw [List.map_append, List.mem_append, not_or] at hi
    rw [h'.others i hi.2, h.others i hi.1]
  · intro x hx
    rcases List.mem_append.mp hx with hx | hx
    · have hx' : x.1 ∉ found'.map Prod.fst :=
        fun hmem => hdisjoint _ (List.mem_map_of_mem hx) _ hmem rfl
      rw [h'.others x.1 hx', h.done x hx]
    · exact h'.done x hx
  · rw [hnew', hnew, List.reverse_append, List.append_assoc]
  · rw [hcalls', hcalls, List.map_append, List.append_assoc]

/-- A worker that is superseded before it starts makes one move and no call. -/
theorem skipped {i : Fin count} (hidle : b.worker i = .idle) (hs : superseded b.lowest i = true)
    (s : Session σ) :
    Retraced o confirm build b s [(i, .ok (.abandoned 0))] [.start i]
      (b.setWorker i (.done (.ok (.abandoned 0)))) s := by
  refine ⟨?_, ?_, ?_, ?_, [], rfl, (List.append_nil _).symm⟩
  · simp only [Board.playAll, Board.play, hidle, hs, if_true]
    rfl
  · intro j a hmem
    cases List.mem_singleton.mp hmem
  · intro j hj
    exact b.setWorker_ne _ (by simpa using hj)
  · intro x hx
    obtain rfl := List.mem_singleton.mp hx
    exact b.setWorker_self i _

/-- A worker that is not goes like a probe. -/
theorem probed {i : Fin count} (hidle : b.worker i = .idle) (hs : superseded b.lowest i = false)
    {q : Inquiry confirm} (hq : q.candidate = build i) {r : Except OracleError Probe × Session σ}
    (h : ProbedAs o s q r) :
    ∃ ms, Retraced o confirm build b s [(i, r.1)] ms (b.conclude i q) r.2 := by
  obtain ⟨ms, hleads, hanswers⟩ := Board.exists_turn hidle hs q
  refine ⟨ms, hleads, ?_, ?_, ?_, q.answers.map fun a => (i, a), rfl, ?_⟩
  · intro j a hmem
    obtain ⟨rfl, ha⟩ := hanswers j a hmem
    rw [← q.map_snd_calls] at ha
    obtain ⟨call, hcall, rfl⟩ := List.mem_map.mp ha
    rw [← hq]
    exact h.gives call hcall
  · intro j hj
    exact b.setWorker_ne _ (by simpa using hj)
  · intro x hx
    obtain rfl := List.mem_singleton.mp hx
    rw [h.finding]
    exact b.setWorker_self i _
  · rw [h.calls, List.map_map]
    change _ = s.calls ++ q.answers.map fun a => (build i, a)
    rw [← hq]
    rfl

end Retraced

theorem map_fst_findings (o : Oracle σ) (confirm : Bool) (build : Fin count → Candidate)
    (lowest : Option (Fin count)) (is : List (Fin count)) (s : Session σ) :
    (findings o confirm build lowest is s).1.map Prod.fst = is := by
  induction is generalizing lowest s with
  | nil => rfl
  | cons i is ih =>
    rw [findings]
    split
    · exact congrArg (i :: ·) (ih _ _)
    · exact congrArg (i :: ·) (ih _ _)

/-- The findings of workers that take turns, from a board on which they are idle. -/
theorem exists_retraced (o : Oracle σ) (confirm : Bool) (build : Fin count → Candidate)
    {is : List (Fin count)} (hnodup : is.Nodup) {b : Board count}
    (hidle : ∀ i ∈ is, b.worker i = .idle) (s : Session σ) :
    ∃ ms b', Retraced o confirm build b s (findings o confirm build b.lowest is s).1 ms b'
      (findings o confirm build b.lowest is s).2 := by
  induction is generalizing b s with
  | nil =>
    exact ⟨[], b, rfl, nofun, fun _ _ => rfl, nofun, [], rfl, (List.append_nil _).symm⟩
  | cons i is ih =>
    have hi := (List.nodup_cons.mp hnodup).1
    -- what a turn of worker `i` leaves, and the rest of the turns from there
    have hturn : ∀ {r s1 ms b1}, Retraced o confirm build b s [(i, r)] ms b1 s1 →
        findings o confirm build b.lowest (i :: is) s =
          ((i, r) :: (findings o confirm build b1.lowest is s1).1,
            (findings o confirm build b1.lowest is s1).2) →
        ∃ ms b', Retraced o confirm build b s (findings o confirm build b.lowest (i :: is) s).1 ms
          b' (findings o confirm build b.lowest (i :: is) s).2 := by
      intro r s1 ms b1 h hfound
      have hrest : ∀ j ∈ is, b1.worker j = .idle := by
        intro j hj
        have hji : j ∉ [(i, r)].map Prod.fst := by
          intro hmem
          obtain rfl : j = i := List.mem_singleton.mp hmem
          exact hi hj
        rw [h.others j hji]
        exact hidle j (List.mem_cons_of_mem _ hj)
      obtain ⟨ms', b', h'⟩ := ih (List.nodup_cons.mp hnodup).2 hrest s1
      rw [hfound]
      refine ⟨ms ++ ms', b', h.append h' ?_⟩
      rw [List.map_append, map_fst_findings]
      exact hnodup
    have hstart := hidle i List.mem_cons_self
    cases hs : superseded b.lowest i with
    | true =>
      refine hturn (Retraced.skipped hstart hs s) ?_
      rw [findings, if_pos hs]
      rfl
    | false =>
      obtain ⟨q, hq, hprobed⟩ := probe_inquiry o confirm (build i) s
      obtain ⟨ms, h⟩ := Retraced.probed hstart hs hq hprobed
      refine hturn h ?_
      have hlowest : (b.conclude i q).lowest =
          lower b.lowest i (probe o confirm (build i) s).1 := by
        rw [hprobed.finding]
        rfl
      rw [findings, if_neg (by rw [hs]; exact Bool.false_ne_true), hlowest]

theorem findings?_eq_some {b : Board count} {found : List (Finding count)}
    (hmap : found.map Prod.fst = List.finRange count)
    (hdone : ∀ x ∈ found, b.worker x.1 = .done x.2) : b.findings? = some found := by
  unfold Board.findings?
  rw [← hmap]
  clear hmap
  induction found with
  | nil => rfl
  | cons x rest ih =>
    obtain ⟨hx, hrest⟩ := List.forall_mem_cons.mp hdone
    have hfinding : b.finding? x.1 = some x := by
      simp only [Board.finding?, hx]
    rw [List.map_cons, List.mapM_cons, hfinding, ih hrest]
    rfl

/-- A pool that takes turns finds what the workers of a play find, with the same calls. -/
theorem exists_play_of_findings (o : Oracle σ) (confirm : Bool) (build : Fin count → Candidate)
    (s : Session σ) :
    ∃ play : Play confirm count,
      play.found = (findings o confirm build none (List.finRange count) s).1 ∧
      (∀ i a, Move.answer i a ∈ play.moves → o.Gives (build i) a) ∧
      (findings o confirm build none (List.finRange count) s).2.calls =
        s.calls ++ play.board.calls.reverse.map fun call => (build call.1, call.2) := by
  obtain ⟨ms, b, h⟩ := exists_retraced o confirm build (List.nodup_finRange count)
    (b := Board.initial) (fun _ _ => rfl) s
  obtain ⟨new, hnew, hcalls⟩ := h.calls
  have hfound := findings?_eq_some (map_fst_findings o confirm build none _ s) h.done
  refine ⟨⟨ms, b, _, h.leads, hfound⟩, rfl, h.gives, ?_⟩
  rw [show b.calls.reverse = new by rw [hnew]; simp [Board.initial]]
  exact hcalls

end DeltaDebug.Pool
