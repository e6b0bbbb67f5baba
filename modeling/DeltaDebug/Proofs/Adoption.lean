import DeltaDebug.Proofs.Pool.Decision
import DeltaDebug.Proofs.Run
import Mathlib.Data.Prod.Basic

/-
  What a search adopts. A round in order asks about nothing but shorter sublists of its candidate,
  and what it adopts failed in the last call, or in the last two if failures have to be confirmed
  (`Round.Grounded`, `step_grounded`). All calls of a minimization are made to probe the input or
  in its rounds (`calls_minimizeWith`), so that nothing is adopted on other grounds.

  A result is the input, or what was adopted last; if the oracle is deterministic and the input
  fails, so does the result (`adopted_candidates_fail`).
-/

namespace DeltaDebug

variable {σ : Type} {confirm : Bool}

/-! ## Calls of a round -/

/-- The calls that were made in the round. -/
def Round.asked (round : Round σ) : List (Candidate × Answer) :=
  round.after.calls.drop round.before.calls.length

/-- The calls of a round are about shorter sublists of its candidate, and the last of them saw the
    candidate fail that is adopted. -/
structure Round.Grounded (confirm : Bool) (round : Round σ) : Prop where
  calls : round.after.calls = round.before.calls ++ round.asked
  smaller : ∀ call ∈ round.asked,
    call.1.Sublist round.state.candidate ∧ call.1.length < round.state.candidate.length
  adopted : ∀ phase i next, round.outcome = .ok (.reduced phase i next) →
    ∃ earlier, round.asked = earlier ++
      List.replicate (if confirm then 2 else 1) (next.candidate, .ok (some .fails))

/-- Rounds in order are grounded, whatever the oracle answers. -/
theorem step_grounded {o : Oracle σ} {st : State} {s s' : Session σ}
    {r : Except OracleError Step} (h : step (scanInOrder o confirm) st s = (r, s')) :
    Round.Grounded confirm ⟨st, s, r, s'⟩ := by
  obtain ⟨qs, hrecorded, hinquired⟩ := step_inquired o confirm st s
  rw [h] at hrecorded hinquired
  have hasked : Round.asked ⟨st, s, r, s'⟩ = qs.flatMap Inquiry.calls := by
    unfold Round.asked
    rw [hrecorded.calls, List.drop_left]
  refine ⟨?_, ?_, ?_⟩
  · rw [hasked, hrecorded.calls]
  · intro call hcall
    rw [hasked] at hcall
    obtain ⟨q, hq, hmem⟩ := List.mem_flatMap.mp hcall
    rw [q.fst_of_mem_calls call hmem]
    exact hinquired.smaller q hq
  · intro phase i next hr
    obtain ⟨earlier, q, rfl, hnext, hfails⟩ := hinquired.adopted phase i next hr
    refine ⟨earlier.flatMap Inquiry.calls, ?_⟩
    rw [hasked, List.flatMap_append, List.flatMap_singleton, hfails.calls_eq, hnext]

/-! ## Calls of a minimization -/

/-- All calls of a search in order are made in its rounds. -/
theorem calls_descend (o : Oracle σ) (confirm : Bool) (st : State) (hg : 0 < st.granularity)
    (s : Session σ) : (descend (scanInOrder o confirm) st hg s).2.calls =
      s.calls ++ (rounds (scanInOrder o confirm) st hg s).flatMap Round.asked := by
  induction st, hg, s using descend_induction (scanInOrder o confirm) with
  | error st hg s e s' h =>
    rw [descend_error h, rounds_error h, List.flatMap_singleton]
    exact (step_grounded h).calls
  | done st hg s s' h =>
    rw [descend_done h, rounds_done h, List.flatMap_singleton]
    exact (step_grounded h).calls
  | next st hg s r s' h hr ih =>
    rw [descend_next h hr, rounds_next h hr, ih, Session.calls_proceed, List.flatMap_cons,
      ← List.append_assoc]
    exact congrArg (· ++ _) (step_grounded h).calls

theorem calls_search (o : Oracle σ) (confirm : Bool) (input : Candidate) (s : Session σ) :
    (search (scanInOrder o confirm) input s).2.calls =
      s.calls ++ (searchRounds (scanInOrder o confirm) input s).flatMap Round.asked := by
  have hd := calls_descend o confirm (.initial input) Nat.two_pos s
  unfold search searchRounds
  split
  · generalize descend (scanInOrder o confirm) (.initial input) Nat.two_pos s = x at hd ⊢
    obtain ⟨_ | st, s'⟩ := x
    · exact hd
    · exact hd
  · exact (List.append_nil _).symm

/-- Before the rounds, only the input is asked about. -/
theorem calls_verify (opts : Options) (o : Oracle σ) (input : Candidate) (s : Session σ) :
    ∃ asked, (verify opts o input s).2.calls = s.calls ++ asked ∧
      ∀ call ∈ asked, call.1 = input := by
  obtain ⟨q, rfl, h⟩ := probe_inquiry o opts.doubleCheck input s
  unfold verify
  split
  · refine ⟨q.calls, ?_, q.fst_of_mem_calls⟩
    rw [← h.calls]
    generalize probe o opts.doubleCheck q.candidate s = x
    obtain ⟨_ | p, s'⟩ := x
    · rfl
    · dsimp only
      split <;> rfl
  · exact ⟨[], (List.append_nil _).symm, nofun⟩

theorem calls_minimizeWith (opts : Options) (o : Oracle σ) (confirm : Bool) (input : Candidate)
    (s : Session σ) :
    ∃ asked, (minimizeWith (scanInOrder o confirm) opts o input s).2.calls = s.calls ++ asked ++
        (minimizeRoundsWith (scanInOrder o confirm) opts o input s).flatMap Round.asked ∧
      ∀ call ∈ asked, call.1 = input := by
  obtain ⟨asked, hcalls, hasked⟩ := calls_verify opts o input s
  refine ⟨asked, ?_, hasked⟩
  rw [← hcalls]
  unfold minimizeWith minimizeRoundsWith
  generalize verify opts o input s = x
  obtain ⟨_ | _, s1⟩ := x
  · exact (List.append_nil _).symm
  · have hsearch := calls_search o confirm input s1
    dsimp only
    rw [← hsearch]
    generalize search (scanInOrder o confirm) input s1 = y
    obtain ⟨_ | m, s2⟩ := y
    · rfl
    · exact s2.calls_note _

/-- All rounds of a search in order are grounded. -/
theorem grounded_of_mem (opts : Options) (o : Oracle σ) (confirm : Bool)
    (input : Candidate) (s : Session σ) :
    ∀ round ∈ minimizeRoundsWith (scanInOrder o confirm) opts o input s,
      round.Grounded confirm := by
  intro round hround
  rcases minimizeRoundsWith_cases (scanInOrder o confirm) opts o input s with
    hnone | ⟨_, s1, hrounds⟩
  · rw [hnone] at hround
    cases hround
  · rw [hrounds] at hround
    obtain ⟨_, hstep⟩ := rounds_invariant (scanInOrder o confirm) Nat.two_pos s1
      (P := fun _ _ => True) (fun _ _ _ _ _ _ _ => trivial) trivial round hround
    exact step_grounded hstep

/-! ## Results -/

/-- If a scan decides, a round goes from candidates that fail to candidates that fail. -/
theorem step_fails {scan : Scan σ} {f : Candidate → Answer} (hd : scan.Decides f) {st : State}
    {s s' : Session σ} {r : Step} (hst : f st.candidate = .ok (some .fails))
    (h : step scan st s = (.ok r, s')) : f (st.after r).candidate = .ok (some .fails) := by
  rcases step_candidate h with he | ⟨i, _, hc, he⟩ | ⟨i, _, _, hs, he⟩
  · rw [he, hst]
  · rw [he, hd.of_found hc]
  · rw [he, hd.of_found hs]

section Minimize

variable {scan : Scan σ} {opts : Options} {o : Oracle σ} {input : Candidate} {s s' : Session σ}
  {r : Result}

/-- A result keeps bytes of the input, in their order: it is the input, or what was adopted
    last. -/
theorem minimized_of_minimizeWith (h : minimizeWith scan opts o input s = (.ok r, s')) :
    r.minimized.Sublist input ∧
      r.minimized =
        ((minimizeRoundsWith scan opts o input s).filterMap Round.adopted?).getLast?.getD input ∧
      r.minimizedSize = r.minimized.length ∧ r.originalSize = input.length := by
  obtain ⟨s1, s2, m, _, hsearch, rfl, hrounds⟩ := minimizeWith_ok h
  rw [hrounds]
  rcases search_ok hsearch with ⟨_, rfl, hnone⟩ | ⟨_, ⟨st, hdescend, rfl⟩, hrounds⟩
  · rw [hnone]
    exact ⟨List.Sublist.refl _, rfl, rfl, rfl⟩
  · rw [hrounds]
    exact ⟨descend_sublist scan Nat.two_pos s1 hdescend,
      descend_candidate scan Nat.two_pos s1 hdescend, rfl, rfl⟩

theorem fails_of_minimizeWith {f : Candidate → Answer} (hd : scan.Decides f)
    (hinput : f input = .ok (some .fails))
    (h : minimizeWith scan opts o input s = (.ok r, s')) :
    f r.minimized = .ok (some .fails) := by
  obtain ⟨s1, s2, m, _, hsearch, rfl, _⟩ := minimizeWith_ok h
  rcases search_ok hsearch with ⟨_, rfl, _⟩ | ⟨_, ⟨st, hdescend, rfl⟩, _⟩
  · exact hinput
  · obtain ⟨_, hst, _⟩ := descend_ended scan Nat.two_pos s1
      (P := fun st _ => f st.candidate = .ok (some .fails))
      (fun _ _ _ _ hst hstep _ => step_fails hd hst hstep) hinput hdescend
    exact hst

end Minimize

/-- **What is adopted failed, and comes from the input.** Against any oracle, in a search in order,
    every call is about the input or made in one of the rounds. Those of a round are about shorter
    sublists of the candidate at hand; the last of them, or the last two if failures have to be
    confirmed, saw the candidate fail that is adopted.

    A result is the input or what was adopted last, a sublist of the input in any case, with its
    sizes. With a deterministic oracle it fails if the input does. -/
theorem adopted_candidates_fail (o : Oracle σ) (opts : Options) (input : Candidate)
    (s : Session σ) :
    (opts.jobs = 1 →
      (∃ asked, (minimize opts o input s).2.calls =
          s.calls ++ asked ++ (minimizeRounds opts o input s).flatMap Round.asked ∧
        ∀ call ∈ asked, call.1 = input) ∧
      ∀ round ∈ minimizeRounds opts o input s, round.Grounded opts.doubleCheck) ∧
    ∀ r s', minimize opts o input s = (.ok r, s') →
      r.minimized.Sublist input ∧
      r.minimized =
        ((minimizeRounds opts o input s).filterMap Round.adopted?).getLast?.getD input ∧
      r.minimizedSize = r.minimized.length ∧ r.minimizedSize ≤ r.originalSize ∧
      r.originalSize = input.length ∧
      ∀ f, o.AnswersBy f → f input = .ok (some .fails) → f r.minimized = .ok (some .fails) := by
  refine ⟨fun hjobs => ?_, fun r s' h => ?_⟩
  · have hscan : opts.scan o = scanInOrder o opts.doubleCheck := if_pos hjobs
    unfold minimize minimizeRounds
    rw [hscan]
    exact ⟨calls_minimizeWith opts o opts.doubleCheck input _,
      grounded_of_mem opts o opts.doubleCheck input _⟩
  · obtain ⟨hsub, hlast, hsize, horiginal⟩ := minimized_of_minimizeWith h
    refine ⟨hsub, hlast, hsize, ?_, horiginal, fun f hf hinput => ?_⟩
    · rw [hsize, horiginal]
      exact hsub.length_le
    · exact fails_of_minimizeWith (opts.decides_scan hf) hinput h

/-- A search that confirms failures, and adopts two candidates. -/
theorem adopted_candidates_fail_failsOn :
    (∀ round ∈ minimizeRounds ⟨1, true, true⟩ (Oracle.ofFunction (failsOn [99, 100]))
      [97, 99, 98, 100] (Session.start ()), round.Grounded true) ∧
    ((minimizeRounds ⟨1, true, true⟩ (Oracle.ofFunction (failsOn [99, 100])) [97, 99, 98, 100]
      (Session.start ())).filterMap Round.adopted? = [[99, 98, 100], [99, 100]]) ∧
    ∃ r s', minimize ⟨1, true, true⟩ (Oracle.ofFunction (failsOn [99, 100])) [97, 99, 98, 100]
        (Session.start ()) = (.ok r, s') ∧
      r.minimized = [99, 100] ∧ failsOn [99, 100] r.minimized = .ok (some .fails) := by
  have hseq : (minimize ⟨1, true, true⟩ (Oracle.ofFunction (failsOn [99, 100])) [97, 99, 98, 100]
      (Session.start ())).1 = .ok ⟨[99, 100], 4, 2, 15, 0, 2, 0, 1, 0⟩ := by
    cbv
  have h := Prod.fst_eq_iff.mp hseq
  have hall := adopted_candidates_fail (Oracle.ofFunction (failsOn [99, 100])) ⟨1, true, true⟩
    [97, 99, 98, 100] (Session.start ())
  refine ⟨(hall.1 rfl).2, by cbv, _, _, h, rfl, ?_⟩
  obtain ⟨_, _, _, _, _, hfails⟩ := hall.2 _ _ h
  exact hfails _ (Oracle.answersBy_ofFunction _) (by cbv)

end DeltaDebug
