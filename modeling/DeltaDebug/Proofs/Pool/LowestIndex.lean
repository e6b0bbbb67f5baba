import DeltaDebug.Proofs.Pool.Account
import DeltaDebug.Proofs.Pool.Turns
import Mathlib.Order.Bounds.Basic

/-
  The lowest failing index, from the first move of a scan to the last. Nothing is known of the
  oracle but that it abandons a call only if it saw the cancel flag raised while the call was under
  way (`Play.Heeds`): its answers may depend on the time, and may differ from call to call.

  `Play.boardAt` is the board as it is after so many moves. Since no move takes the lowest failing
  index up (`Board.lowest_play`), a flag that was raised stays so. Hence a call that is abandoned is
  one that may be (`Play.Heeds.allowed`), and every board on the way is sound (`Play.Heeds.sound`).
  All that is said of the board at the end follows from that. What the scan makes of it is found by
  going through the findings up to the first that decides (`Play.collect_cases`).

  The pool whose workers take turns is among the pools this is about: its findings are those of a
  play (`exists_play_of_findings`).
-/

namespace DeltaDebug

variable {σ : Type} {confirm : Bool}

/-! ## What the answers to a worker amount to -/

namespace Inquiry

/-- The answers to a candidate that is classified as failing. -/
def failures (confirm : Bool) : List Answer :=
  List.replicate (if confirm then 2 else 1) (.ok (some .fails))

theorem fails_iff (q : Inquiry confirm) : q.Fails ↔ q.answers = failures confirm := by
  constructor
  · intro h
    rw [← q.map_snd_calls, h.calls_eq, List.map_replicate]
    rfl
  · intro h
    obtain ⟨c, first, second, hs⟩ := q
    cases confirm with
    | false =>
      obtain ⟨rfl, hsecond⟩ := List.cons.inj h
      obtain rfl : second = none := by simpa using hsecond
      exact ⟨_, rfl, rfl⟩
    | true =>
      obtain ⟨rfl, hsecond⟩ := List.cons.inj h
      obtain rfl : second = some (.ok (some .fails)) := by simpa using hsecond
      exact ⟨_, rfl, rfl⟩

theorem finding_eq_error_iff (q : Inquiry confirm) (e : OracleError) :
    q.finding = .error e ↔ q.answers.getLast? = some (.error e) := by
  obtain ⟨c, first, second, hs⟩ := q
  cases second with
  | none =>
    rcases first with e' | _ | v
    · simp [finding, answers]
    · simp [finding, answers]
    · simp [finding, answers]
  | some a =>
    obtain ⟨rfl, rfl⟩ := hs.mp rfl
    rcases a with e' | _ | v
    · simp [finding, answers]
    · simp [finding, answers]
    · cases v <;> simp [finding, answers]

/-- A probe that comes to nothing had a call that was abandoned. -/
theorem finding_eq_abandoned_iff (q : Inquiry confirm) :
    (∃ n, q.finding = .ok (.abandoned n)) ↔ .ok none ∈ q.answers := by
  obtain ⟨c, first, second, hs⟩ := q
  cases second with
  | none =>
    rcases first with e' | _ | v
    · simp [finding, answers]
    · simp [finding, answers]
    · simp [finding, answers, Probe.abandoned]
  | some a =>
    obtain ⟨rfl, rfl⟩ := hs.mp rfl
    rcases a with e' | _ | v
    · simp [finding, answers]
    · simp [finding, answers]
    · cases v <;> simp [finding, answers, Probe.abandoned]

end Inquiry

namespace Pool

variable {count : Nat}

/-! ## Boards in time -/

namespace Play

variable (play : Play confirm count)

theorem isSome_playAll_take (t : Nat) :
    (Board.initial.playAll confirm (play.moves.take t)).isSome := by
  have h := play.board_eq
  rw [← List.take_append_drop t play.moves, Board.playAll_append] at h
  obtain ⟨b, hb, _⟩ := Option.bind_eq_some_iff.mp h
  rw [hb]
  rfl

/-- The board after the first `t` moves; after all of them it stays as it is. -/
def boardAt (t : Nat) : Board count :=
  (Board.initial.playAll confirm (play.moves.take t)).get (play.isSome_playAll_take t)

variable {play}

theorem playAll_take (t : Nat) :
    Board.initial.playAll confirm (play.moves.take t) = some (play.boardAt t) :=
  (Option.some_get _).symm

theorem boardAt_of_length_le {t : Nat} (h : play.moves.length ≤ t) :
    play.boardAt t = play.board := by
  have ht := play.playAll_take t
  rw [List.take_of_length_le h, play.board_eq] at ht
  exact (Option.some.inj ht).symm

/-- From one time to the next there is a move, or nothing changes any more. -/
theorem boardAt_succ (t : Nat) :
    (∃ m, play.moves[t]? = some m ∧
      (play.boardAt t).play confirm m = some (play.boardAt (t + 1))) ∨
    play.boardAt (t + 1) = play.boardAt t := by
  cases h : play.moves[t]? with
  | none =>
    have hlen := List.getElem?_eq_none_iff.mp h
    rw [boardAt_of_length_le hlen, boardAt_of_length_le (by omega)]
    exact Or.inr rfl
  | some m =>
    have hnext := play.playAll_take (t + 1)
    rw [List.take_add_one, h, Board.playAll_append, playAll_take] at hnext
    change ((play.boardAt t).play confirm m).bind some = _ at hnext
    rw [Option.bind_fun_some] at hnext
    exact Or.inl ⟨m, rfl, hnext⟩

/-- What holds at first and is kept by every move holds at all times. -/
theorem boardAt_induction {P : Board count → Prop} (init : P Board.initial)
    (step : ∀ t m b, play.moves[t]? = some m → (play.boardAt t).play confirm m = some b →
      P (play.boardAt t) → P b) (t : Nat) : P (play.boardAt t) := by
  induction t with
  | zero => exact init
  | succ t ih =>
    obtain ⟨m, hm, hplay⟩ | hsame := play.boardAt_succ t
    · exact step t m _ hm hplay ih
    · rw [hsame]
      exact ih

end Play

/-! ## The lowest failing index goes down -/

theorem lower_le {lowest : Option (Fin count)} {k : Fin count} (h : lowest = some k) (i : Fin count)
    (r : Except OracleError Probe) : ∃ j ≤ k, lower lowest i r = some j := by
  cases r with
  | error e => exact ⟨k, Fin.le_refl k, h⟩
  | ok p =>
    cases hp : p.fails with
    | true =>
      obtain ⟨j, hj, _, _, hle⟩ := lower_fails lowest i hp
      exact ⟨j, hle k h, hj⟩
    | false =>
      refine ⟨k, Fin.le_refl k, ?_⟩
      simp only [lower, hp]
      exact h

theorem Board.lowest_play {b b' : Board count} {m : Move count} {k : Fin count}
    (h : b.play confirm m = some b') (hk : b.lowest = some k) : ∃ j ≤ k, b'.lowest = some j := by
  obtain ⟨i, _, _, rfl⟩ | ⟨i, a, w, _, _, rfl⟩ | ⟨i, p, _, _, rfl⟩ := play_cases h
  · exact ⟨k, Fin.le_refl k, hk⟩
  · exact ⟨k, Fin.le_refl k, hk⟩
  · exact lower_le hk i (.ok p)

theorem Play.lowest_boardAt_le {play : Play confirm count} {t u : Nat} (htu : t ≤ u) {k : Fin count}
    (hk : (play.boardAt t).lowest = some k) : ∃ j ≤ k, (play.boardAt u).lowest = some j := by
  induction htu with
  | refl => exact ⟨k, Fin.le_refl k, hk⟩
  | @step u _ ih =>
    obtain ⟨j, hjk, hj⟩ := ih
    obtain ⟨m, _, hplay⟩ | hsame := play.boardAt_succ u
    · obtain ⟨l, hlj, hl⟩ := Board.lowest_play hplay hj
      exact ⟨l, Fin.le_trans hlj hjk, hl⟩
    · rw [hsame]
      exact ⟨j, hjk, hj⟩

theorem Play.superseded_boardAt {play : Play confirm count} {t u : Nat} (htu : t ≤ u)
    {i : Fin count} (h : superseded (play.boardAt t).lowest i = true) :
    superseded (play.boardAt u).lowest i = true := by
  obtain ⟨k, hk, hki⟩ := superseded_iff.mp h
  obtain ⟨j, hjk, hj⟩ := lowest_boardAt_le htu hk
  exact superseded_iff.mpr ⟨j, hj, Fin.lt_of_le_of_lt hjk hki⟩

/-! ## Calls that are abandoned -/

/-- A call is abandoned only if its cancel flag was seen raised while it was under way: at that time
    the worker waited for the same answer, and an index below it was known to fail. -/
def Play.Heeds (play : Play confirm count) : Prop :=
  ∀ t i, play.moves[t]? = some (.answer i (.ok none)) →
    ∃ u ≤ t, (play.boardAt u).worker i = (play.boardAt t).worker i ∧
      superseded (play.boardAt u).lowest i = true

namespace Play.Heeds

variable {play : Play confirm count} (heeds : play.Heeds)

include heeds

theorem allowed {t : Nat} {m : Move count} (hm : play.moves[t]? = some m) :
    (play.boardAt t).Allowed (fun _ a => a ≠ .ok none) m := by
  cases m with
  | start i => trivial
  | publish i => trivial
  | answer i a =>
    by_cases ha : a = .ok none
    · subst ha
      -- the flag that was seen raised is still raised when the call returns
      obtain ⟨u, hut, _, hs⟩ := heeds t i hm
      exact Or.inr ⟨rfl, superseded_boardAt hut hs⟩
    · exact Or.inl ha

theorem sound (t : Nat) : (play.boardAt t).Sound confirm fun _ a => a ≠ .ok none :=
  boardAt_induction Board.sound_initial
    (fun _ _ _ hm hplay hb => hb.play (heeds.allowed hm) hplay) t

theorem sound_board : play.board.Sound confirm fun _ a => a ≠ .ok none := by
  rw [← boardAt_of_length_le (Nat.le_refl play.moves.length)]
  exact heeds.sound _

end Play.Heeds

/-! ## What became of the workers -/

namespace Board

/-- The worker is done, and its candidate was classified as failing. -/
def Failed (b : Board count) (i : Fin count) : Prop :=
  ∃ p, b.worker i = .done (.ok p) ∧ p.fails = true

/-- The worker is done, and came to an error. -/
def Erred (b : Board count) (i : Fin count) (e : OracleError) : Prop :=
  b.worker i = .done (.error e)

/-- The worker is done, and came to neither a failure nor an error. -/
def Neutral (b : Board count) (i : Fin count) : Prop :=
  ∃ p, b.worker i = .done (.ok p) ∧ p.fails = false

theorem Neutral.not_failed {b : Board count} {i : Fin count} (h : b.Neutral i) : ¬ b.Failed i := by
  rintro ⟨p, hp, hfails⟩
  obtain ⟨q, hq, hpasses⟩ := h
  rw [hq] at hp
  cases hp
  rw [hpasses] at hfails
  cases hfails

theorem not_erred_of_ok {b : Board count} {i : Fin count} {p : Probe}
    (h : b.worker i = .done (.ok p)) (e : OracleError) : ¬ b.Erred i e := by
  intro he
  unfold Erred at he
  rw [h] at he
  cases he

theorem Neutral.not_erred {b : Board count} {i : Fin count} {e : OracleError} (h : b.Neutral i) :
    ¬ b.Erred i e := by
  obtain ⟨p, hp, _⟩ := h
  exact not_erred_of_ok hp e

theorem Failed.not_erred {b : Board count} {i : Fin count} {e : OracleError} (h : b.Failed i) :
    ¬ b.Erred i e := by
  obtain ⟨p, hp, _⟩ := h
  exact not_erred_of_ok hp e

/-- What a scan comes to: the lowest failing index that is known, if any, or the error of the least
    index with one if no index below it failed. -/
inductive Settles (b : Board count) : Except OracleError (Option (Fin count)) → Prop
  | lowest (h : ∀ i e, b.Erred i e → ∃ k < i, b.lowest = some k) : b.Settles (.ok b.lowest)
  | error {i : Fin count} {e : OracleError} (hi : b.Erred i e) (hleast : ∀ j f, b.Erred j f → i ≤ j)
    (hbelow : ∀ k, b.lowest = some k → i < k) : b.Settles (.error e)

end Board

namespace Play

variable {play : Play confirm count}

theorem exists_finding (i : Fin count) :
    ∃ r, (i, r) ∈ play.found ∧ play.board.worker i = .done r := by
  obtain ⟨hmap, hdone⟩ := findings?_spec play.found_eq
  have hmem : i ∈ play.found.map Prod.fst := by
    rw [hmap]
    exact List.mem_finRange i
  obtain ⟨x, hx, rfl⟩ := List.mem_map.mp hmem
  exact ⟨x.2, hx, hdone x hx⟩

/-- In the end each worker was skipped, or came to what the answers to its calls amount to. -/
theorem exists_inquiry (i : Fin count) :
    (play.board.answersTo i = [] ∧ play.board.worker i = .done (.ok (.abandoned 0))) ∨
    ∃ q : Inquiry confirm, q.answers = play.board.answersTo i ∧
      play.board.worker i = .done q.finding := by
  obtain ⟨r, hmem, hdone⟩ := play.exists_finding i
  rw [hdone]
  obtain ⟨hnone, rfl⟩ | ⟨q, hq, rfl⟩ := play.answered hmem
  · exact Or.inl ⟨hnone, rfl⟩
  · exact Or.inr ⟨q, hq, rfl⟩

/-- A candidate is classified as failing only by calls that all saw a failure. -/
theorem failed_answers {t : Nat} {i : Fin count} (h : (play.boardAt t).Failed i) :
    (play.boardAt t).answersTo i = Inquiry.failures confirm := by
  obtain ⟨p, hp, hfails⟩ := h
  have hanswered :=
    Board.answered_playAll (b := Board.initial) (fun _ => rfl) (play.playAll_take t) i
  rw [hp] at hanswered
  obtain ⟨_, hskipped⟩ | ⟨q, hq, hfinding⟩ := hanswered
  · cases hskipped
    cases hfails
  · rw [← hq]
    exact q.fails_iff.mp ⟨p, hfinding, hfails⟩

theorem failed_iff (i : Fin count) :
    play.board.Failed i ↔ play.board.answersTo i = Inquiry.failures confirm := by
  unfold Board.Failed
  obtain ⟨hnone, hdone⟩ | ⟨q, hq, hdone⟩ := play.exists_inquiry i
  · rw [hnone, hdone]
    refine iff_of_false ?_ (by cases confirm <;> nofun)
    rintro ⟨p, hp, hfails⟩
    cases hp
    cases hfails
  · rw [← hq, hdone, ← q.fails_iff]
    simp only [Worker.done.injEq]
    rfl

theorem erred_iff (i : Fin count) (e : OracleError) :
    play.board.Erred i e ↔ (play.board.answersTo i).getLast? = some (.error e) := by
  unfold Board.Erred
  obtain ⟨hnone, hdone⟩ | ⟨q, hq, hdone⟩ := play.exists_inquiry i
  · rw [hnone, hdone]
    exact iff_of_false nofun nofun
  · rw [← hq, hdone, Worker.done.injEq]
    exact q.finding_eq_error_iff e

end Play

namespace Play.Heeds

variable {play : Play confirm count} (heeds : play.Heeds)

include heeds

theorem lowest_iff (k : Fin count) :
    play.board.lowest = some k ↔ IsLeast {i | play.board.Failed i} k := by
  have hb := heeds.sound_board
  constructor
  · intro hk
    refine ⟨hb.lowest_fails k hk, fun i hi => ?_⟩
    obtain ⟨p, hp, hfails⟩ := hi
    obtain ⟨j, hj, hji⟩ := hb.lowest_le i p hp hfails
    rw [hk] at hj
    cases hj
    exact hji
  · rintro ⟨⟨p, hp, hfails⟩, hleast⟩
    obtain ⟨j, hj, hjk⟩ := hb.lowest_le k p hp hfails
    have hkj := hleast (hb.lowest_fails j hj)
    rw [hj, Fin.le_antisymm hjk hkj]

theorem lowest_eq_none_iff : play.board.lowest = none ↔ ∀ i, ¬ play.board.Failed i := by
  have hb := heeds.sound_board
  constructor
  · rintro hnone i ⟨p, hp, hfails⟩
    obtain ⟨k, hk, _⟩ := hb.lowest_le i p hp hfails
    rw [hnone] at hk
    cases hk
  · intro hnone
    refine Option.eq_none_iff_forall_ne_some.mpr fun k hk => ?_
    exact hnone k (hb.lowest_fails k hk)

/-- A worker up to the lowest failing index is neither skipped nor cancelled. -/
theorem probed {i : Fin count} (hi : ∀ k, play.board.lowest = some k → i ≤ k) :
    play.board.answersTo i ≠ [] ∧ .ok none ∉ play.board.answersTo i := by
  have hsuperseded : ¬ superseded play.board.lowest i = true := by
    intro hs
    obtain ⟨k, hk, hki⟩ := superseded_iff.mp hs
    exact absurd hki (Fin.not_lt.mpr (hi k hk))
  have hkept : ∀ n, play.board.worker i ≠ .done (.ok (.abandoned n)) := by
    intro n hn
    have hworker := heeds.sound_board.workers i
    rw [hn] at hworker
    obtain ⟨q, hcalls, hfinding⟩ | ⟨hs, _⟩ := hworker
    · have hmem := q.finding_eq_abandoned_iff.mp ⟨n, hfinding⟩
      rw [← q.map_snd_calls] at hmem
      obtain ⟨call, hcall, hanswer⟩ := List.mem_map.mp hmem
      exact hcalls call hcall hanswer
    · exact hsuperseded hs
  obtain ⟨_, hdone⟩ | ⟨q, hq, hdone⟩ := play.exists_inquiry i
  · exact absurd hdone (hkept 0)
  · rw [← hq]
    refine ⟨List.cons_ne_nil _ _, fun hmem => ?_⟩
    obtain ⟨n, hn⟩ := q.finding_eq_abandoned_iff.mpr hmem
    rw [hn] at hdone
    exact hkept n hdone

end Play.Heeds

/-! ## What the scan makes of it -/

/-- The findings decide at the first of them that is a failure or an error. -/
theorem collect_first (found : List (Finding count)) (s : Session σ) :
    ((∀ x ∈ found, ∃ p, x.2 = .ok p ∧ p.fails = false) ∧ (collect none found s).1 = .ok none) ∨
    ∃ before i r after, found = before ++ (i, r) :: after ∧
      (∀ x ∈ before, ∃ p, x.2 = .ok p ∧ p.fails = false) ∧
      ((∃ p, r = .ok p ∧ p.fails = true ∧ (collect none found s).1 = .ok (some i)) ∨
        ∃ e, r = .error e ∧ (collect none found s).1 = .error e) := by
  induction found generalizing s with
  | nil => exact Or.inl ⟨nofun, rfl⟩
  | cons x rest ih =>
    obtain ⟨i, r⟩ := x
    cases r with
    | error e => exact Or.inr ⟨[], i, .error e, rest, rfl, nofun, Or.inr ⟨e, rfl, rfl⟩⟩
    | ok p =>
      cases hp : p.fails with
      | true =>
        refine Or.inr ⟨[], i, .ok p, rest, rfl, nofun, Or.inl ⟨p, rfl, hp, ?_⟩⟩
        simp only [collect, hp]
        exact collect_some i rest _
      | false =>
        have hskip : collect none ((i, .ok p) :: rest) s = collect none rest (s.record p) := by
          simp only [collect, hp]
          rfl
        have hx : ∃ q, (Except.ok p : Except OracleError Probe) = .ok q ∧ q.fails = false :=
          ⟨p, rfl, hp⟩
        rw [hskip]
        obtain ⟨hall, hend⟩ | ⟨before, j, r, after, rfl, hbefore, hend⟩ := ih (s.record p)
        · exact Or.inl ⟨List.forall_mem_cons.mpr ⟨hx, hall⟩, hend⟩
        · exact Or.inr ⟨(i, .ok p) :: before, j, r, after, rfl,
            List.forall_mem_cons.mpr ⟨hx, hbefore⟩, hend⟩

/-- Up to the worker that decides, all came to neither a failure nor an error. -/
theorem Play.collect_cases (play : Play confirm count) (s : Session σ) :
    ((∀ j, play.board.Neutral j) ∧ (collect none play.found s).1 = .ok none) ∨
    ∃ i, (∀ j < i, play.board.Neutral j) ∧
      ((play.board.Failed i ∧ (collect none play.found s).1 = .ok (some i)) ∨
        ∃ e, play.board.Erred i e ∧ (collect none play.found s).1 = .error e) := by
  obtain ⟨hmap, hdone⟩ := findings?_spec play.found_eq
  obtain ⟨hall, hend⟩ | ⟨before, i, r, after, hfound, hbefore, hend⟩ := collect_first play.found s
  · refine Or.inl ⟨fun j => ?_, hend⟩
    obtain ⟨r, hmem, hj⟩ := play.exists_finding j
    obtain ⟨p, rfl, hp⟩ := hall _ hmem
    exact ⟨p, hj, hp⟩
  · have hsorted : play.found.Pairwise fun x y => x.1 < y.1 := by
      have hrange := List.pairwise_lt_finRange count
      rw [← hmap] at hrange
      exact List.pairwise_map.mp hrange
    have hi : play.board.worker i = .done r := hdone (i, r) (by rw [hfound]; simp)
    refine Or.inr ⟨i, fun j hji => ?_, ?_⟩
    · -- a finding for a smaller index comes before the one that decides
      obtain ⟨r', hmem, hj⟩ := play.exists_finding j
      rw [hfound] at hmem hsorted
      rcases List.mem_append.mp hmem with hmem | hmem
      · obtain ⟨p, rfl, hp⟩ := hbefore _ hmem
        exact ⟨p, hj, hp⟩
      · have hle : i ≤ j := by
          rcases List.mem_cons.mp hmem with he | hmem
          · cases he
            exact Fin.le_refl i
          · have hafter := (List.pairwise_cons.mp (List.pairwise_append.mp hsorted).2.1).1
            exact Fin.le_of_lt (hafter _ hmem)
        exact absurd hji (Fin.not_lt.mpr hle)
    · rcases hend with ⟨p, rfl, hp, hend⟩ | ⟨e, rfl, hend⟩
      · exact Or.inl ⟨⟨p, hi, hp⟩, hend⟩
      · exact Or.inr ⟨e, hi, hend⟩

theorem Play.Heeds.settles {play : Play confirm count} (heeds : play.Heeds) (s : Session σ) :
    play.board.Settles (collect none play.found s).1 := by
  obtain ⟨hall, hend⟩ | ⟨i, hbelow, ⟨hi, hend⟩ | ⟨e, hi, hend⟩⟩ := play.collect_cases s
  · have hnone := heeds.lowest_eq_none_iff.mpr fun j => (hall j).not_failed
    rw [hend, ← hnone]
    exact .lowest fun j e he => absurd he (hall j).not_erred
  · have hleast : ∀ j, play.board.Failed j → i ≤ j :=
      fun j hj => Fin.not_lt.mp fun hji => (hbelow j hji).not_failed hj
    have hlowest := (heeds.lowest_iff i).mpr ⟨hi, fun j hj => hleast j hj⟩
    rw [hend, ← hlowest]
    refine .lowest fun j e he => ⟨i, ?_, hlowest⟩
    have hij : i ≤ j := Fin.not_lt.mp fun hji => (hbelow j hji).not_erred he
    exact lt_of_le_of_ne hij fun h => hi.not_erred (h ▸ he)
  · rw [hend]
    refine .error hi (fun j f hj => Fin.not_lt.mp fun hji => (hbelow j hji).not_erred hj) ?_
    intro k hk
    have hfailed := ((heeds.lowest_iff k).mp hk).1
    have hik : i ≤ k := Fin.not_lt.mp fun hki => (hbelow k hki).not_failed hfailed
    exact lt_of_le_of_ne hik fun h => Board.Failed.not_erred hfailed (h ▸ hi)

/-! ## Scans -/

/-- What holds of the lowest failing index along a play, and of the workers at its end. -/
structure Play.LowestWins (play : Play confirm count) : Prop where
  /-- Whenever an index is known, its candidate has been classified as failing. -/
  known : ∀ t k, (play.boardAt t).lowest = some k →
    (play.boardAt t).Failed k ∧ (play.boardAt t).answersTo k = Inquiry.failures confirm
  /-- It is never given up for a larger one, or for none. -/
  descends : ∀ t u k, t ≤ u → (play.boardAt t).lowest = some k →
    ∃ j ≤ k, (play.boardAt u).lowest = some j
  /-- In the end it is the least of those that failed. -/
  least : ∀ k, play.board.lowest = some k ↔ IsLeast {i | play.board.Failed i} k
  none_failed : play.board.lowest = none ↔ ∀ i, ¬ play.board.Failed i
  /-- No worker up to it was skipped, and no call of such a worker was abandoned. -/
  probed : ∀ i, (∀ k, play.board.lowest = some k → i ≤ k) →
    play.board.answersTo i ≠ [] ∧ .ok none ∉ play.board.answersTo i
  /-- The workers that failed are those all whose calls saw a failure. -/
  failed_iff : ∀ i, play.board.Failed i ↔ play.board.answersTo i = Inquiry.failures confirm
  /-- The workers that came to an error are those whose last call did. -/
  erred_iff : ∀ i e, play.board.Erred i e ↔
    (play.board.answersTo i).getLast? = some (.error e)

theorem Play.Heeds.lowestWins {play : Play confirm count} (heeds : play.Heeds) :
    play.LowestWins where
  known t k hk := by
    have hfailed := (heeds.sound t).lowest_fails k hk
    exact ⟨hfailed, play.failed_answers hfailed⟩
  descends _ _ _ htu hk := play.lowest_boardAt_le htu hk
  least := heeds.lowest_iff
  none_failed := heeds.lowest_eq_none_iff
  probed _ hi := heeds.probed hi
  failed_iff := play.failed_iff
  erred_iff := play.erred_iff

/-- No call is abandoned, so none is abandoned without need. -/
theorem Play.heeds_of_answers {play : Play confirm count}
    (h : ∀ i a, Move.answer i a ∈ play.moves → a ≠ .ok none) : play.Heeds :=
  fun _ i hm => absurd rfl (h i _ (List.mem_of_getElem? hm))

end Pool

/-- **The lowest failing index wins.** Against any oracle that abandons a call only if it saw the
    cancel flag raised meanwhile, and however the workers of a scan of more than one candidate mix
    their moves: the lowest failing index that is known is at all times that of a candidate that was
    classified as failing, and only goes down; in the end it is the least such index, and no worker
    up to it was skipped or cancelled. The scan comes to that index, to the error of the least index
    with one if no index below it failed, or to nothing if there is neither. All this holds of the
    pool whose workers take turns, if nobody's call is abandoned there: it goes like such a play. -/
theorem lowest_index_wins {count : Nat} (hcount : 1 < count) (o : Oracle σ) :
    (∀ play : Pool.Play confirm count, play.Heeds → play.LowestWins ∧
      ∀ (schedule : Pool.Schedule σ confirm) (build : Fin count → Candidate) (s : Session σ),
        schedule count build s = play →
        play.board.Settles (Pool.scanBy o schedule count build s).1) ∧
    ((∀ c a, o.Gives c a → a ≠ .ok none) →
      ∀ (build : Fin count → Candidate) (s : Session σ), ∃ play : Pool.Play confirm count,
        play.Heeds ∧
        (Pool.findings o confirm build none (List.finRange count) s).1 = play.found ∧
        (Pool.findings o confirm build none (List.finRange count) s).2.calls =
          s.calls ++ (Pool.Batch.pooled build play).calls ∧
        play.board.Settles (Pool.scan o confirm count build s).1) := by
  refine ⟨fun play heeds => ⟨heeds.lowestWins, ?_⟩, ?_⟩
  · rintro schedule build s rfl
    unfold Pool.scanBy
    rw [if_neg (Nat.not_le.mpr hcount)]
    exact heeds.settles _
  · intro hgives build s
    obtain ⟨play, hfound, hmoves, hcalls⟩ := Pool.exists_play_of_findings o confirm build s
    have heeds : play.Heeds :=
      Pool.Play.heeds_of_answers fun i a hmem => hgives _ a (hmoves i a hmem)
    refine ⟨play, heeds, hfound.symm, hcalls, ?_⟩
    unfold Pool.scan
    rw [if_neg (Nat.not_le.mpr hcount)]
    dsimp only
    rw [← hfound]
    exact heeds.settles _

/-- The third worker is the first to fail, and the fourth gives up between its calls. Then the
    second worker fails too, and the first sees its candidate pass. -/
def Pool.crossing : Pool.Play true 4 where
  moves := [.start 1, .start 2, .start 3, .answer 3 (.ok (some .fails)),
    .answer 2 (.ok (some .fails)), .answer 2 (.ok (some .fails)), .publish 2,
    .answer 3 (.ok none), .start 0, .answer 1 (.ok (some .fails)), .answer 1 (.ok (some .fails)),
    .answer 0 (.ok (some .passes)), .publish 1]
  board := _
  found := [(0, .ok ⟨1, some .passes⟩), (1, .ok ⟨2, some .fails⟩), (2, .ok ⟨2, some .fails⟩),
    (3, .ok ⟨1, none⟩)]
  board_eq := rfl
  found_eq := rfl

theorem Pool.crossing_heeds : Pool.crossing.Heeds := by
  intro t i h
  obtain ⟨rfl, rfl⟩ : t = 7 ∧ i = 3 := by
    rcases t with _ | _ | _ | _ | _ | _ | _ | _ | _ | _ | _ | _ | _ | t <;>
      simp [Pool.crossing] at h
    exact ⟨rfl, h.symm⟩
  exact ⟨7, Nat.le_refl 7, rfl, rfl⟩

/-- Scans of four candidates go as in `crossing`, all others as the schedule says. -/
def Pool.Schedule.crossing (schedule : Pool.Schedule σ true) : Pool.Schedule σ true
  | 4, _, _ => Pool.crossing
  | count, build, s => schedule count build s

/-- The lowest failing index that is known goes from 2 down to 1, which the scan comes to. A pool
    that takes turns goes like a play, too. -/
theorem lowest_index_wins_crossing :
    (Pool.crossing.boardAt 7).lowest = some 2 ∧ Pool.crossing.board.lowest = some 1 ∧
    IsLeast {i | Pool.crossing.board.Failed i} 1 ∧
    (∃ schedule : Pool.Schedule Unit true, Pool.crossing.board.Settles
      (Pool.scanBy (Oracle.ofFunction (failsOn [99])) schedule 4 (fun _ => [98])
        (Session.start ())).1) ∧
    ∃ play : Pool.Play true 4, play.Heeds ∧ play.board.Settles
      (Pool.scan (Oracle.ofFunction (failsOn [99])) true 4 (fun _ => [98])
        (Session.start ())).1 := by
  have hgives : ∀ c a, (Oracle.ofFunction (failsOn [99])).Gives c a → a ≠ .ok none := by
    rintro c a ⟨_, rfl⟩
    nofun
  have hcount : 1 < 4 := by decide
  obtain ⟨hplays, hturns⟩ := lowest_index_wins hcount (Oracle.ofFunction (failsOn [99]))
  obtain ⟨hwins, hsettles⟩ := hplays Pool.crossing Pool.crossing_heeds
  obtain ⟨schedule, _⟩ := Pool.exists_legal Unit true (failsOn [99])
  obtain ⟨play, heeds, _, _, hscan⟩ := hturns hgives (fun _ => [98]) (Session.start ())
  exact ⟨rfl, rfl, (hwins.least 1).mp rfl, ⟨schedule.crossing, hsettles _ _ _ rfl⟩,
    play, heeds, hscan⟩

end DeltaDebug
