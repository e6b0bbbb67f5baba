import DeltaDebug.Proofs.Run
import Mathlib.Data.Prod.Basic

/-
  Searches end, whatever the oracle answers. What is left to do goes down with every round
  (`step_rest_lt`, in `Run`), so no sequence of rounds goes on for ever, even if the answers
  contradict each other (`State.follows_wellFounded`).

  The pair that goes down also bounds the number of rounds. A candidate of `n` bytes can be split
  in at most `n` ways before a byte is deleted, so there are at most about `n * n` rounds
  (`length_rounds_le`). The bound is rough, as the number of parts doubles.
-/

namespace DeltaDebug

variable {σ : Type}

/-! ## States that follow each other -/

/-- A round that does not end the search may lead from `st` to `next`, with whatever answers. -/
def State.Follows (next st : State) : Prop :=
  0 < st.granularity ∧ ∃ (σ : Type) (scan : Scan σ) (s s' : Session σ) (r : Step),
    step scan st s = (.ok r, s') ∧ r ≠ .done ∧ next = st.after r

theorem State.Follows.rest_lt {next st : State} (h : next.Follows st) :
    Prod.Lex (· < ·) (· < ·) next.rest st.rest := by
  obtain ⟨hg, _, _, _, _, _, hstep, hr, rfl⟩ := h
  exact step_rest_lt hstep hr hg

/-- There is no endless sequence of rounds. -/
theorem State.follows_wellFounded : WellFounded State.Follows := by
  have hlex : WellFounded (Prod.Lex (· < ·) (· < ·) : Nat × Nat → Nat × Nat → Prop) :=
    (Prod.lex Nat.lt_wfRel Nat.lt_wfRel).wf
  exact Subrelation.wf (fun h => h.rest_lt) (InvImage.wf State.rest hlex)

/-! ## The number of rounds -/

/-- A search takes at most so many rounds from here. -/
def State.budget (st : State) : Nat := st.rest.1 * st.rest.1 + st.rest.2 + 1

/-- At most one split is left for every byte but one. -/
theorem State.rest_snd_le {st : State} (hg : 0 < st.granularity) : st.rest.2 ≤ st.rest.1 - 1 := by
  unfold State.rest
  dsimp only
  omega

theorem State.budget_lt {next st : State} (hg : 0 < next.granularity)
    (h : Prod.Lex (· < ·) (· < ·) next.rest st.rest) : next.budget < st.budget := by
  have hnext := next.rest_snd_le hg
  unfold State.budget
  generalize next.rest = x at h hnext ⊢
  generalize st.rest = y at h ⊢
  cases h with
  | @left n k n' k' hlt =>
    have hsq : (n + 1) * (n + 1) ≤ n' * n' := Nat.mul_le_mul hlt hlt
    have hexpand : (n + 1) * (n + 1) = n * n + 2 * n + 1 := by
      rw [Nat.add_mul, Nat.mul_add]
      omega
    dsimp only at hnext ⊢
    omega
  | right n hlt =>
    dsimp only
    omega

theorem length_rounds_le (scan : Scan σ) (st : State) (hg : 0 < st.granularity) (s : Session σ) :
    (rounds scan st hg s).length ≤ st.budget := by
  induction st, hg, s using descend_induction scan with
  | error st hg s e s' h =>
    rw [rounds_error h]
    exact Nat.le_add_left 1 _
  | done st hg s s' h =>
    rw [rounds_done h]
    exact Nat.le_add_left 1 _
  | next st hg s r s' h hr ih =>
    have hlt := State.budget_lt (step_granularity_pos h hg) (step_rest_lt h hr hg)
    rw [rounds_next h hr, List.length_cons]
    omega

theorem State.budget_le {st : State} (hg : 0 < st.granularity) :
    st.budget ≤ st.candidate.length * (st.candidate.length + 1) + 1 := by
  have hsplit := st.rest_snd_le hg
  have hfst : st.rest.1 = st.candidate.length := rfl
  unfold State.budget
  rw [Nat.mul_add, hfst]
  omega

/-- The last round of the list ends the search, by an error or as nothing smaller fails, and no
    other does. -/
def EndsLast (all : List (Round σ)) : Prop :=
  (∀ round ∈ all.dropLast, ∃ r, round.outcome = .ok r ∧ r ≠ .done) ∧
    ∀ last, all.getLast? = some last → ∀ r, last.outcome = .ok r → r = .done

theorem rounds_endsLast (scan : Scan σ) {st : State} (hg : 0 < st.granularity) (s : Session σ) :
    EndsLast (rounds scan st hg s) := by
  obtain ⟨earlier, last, hrounds, hearlier, hlast, _⟩ := rounds_shape scan hg s
  rw [hrounds]
  refine ⟨?_, ?_⟩
  · rw [List.dropLast_concat]
    exact hearlier
  · intro round hround
    rw [List.getLast?_concat] at hround
    obtain rfl : last = round := Option.some.inj hround
    exact hlast

theorem minimizeRounds_endsLast (opts : Options) (o : Oracle σ) (input : Candidate)
    (s : Session σ) : EndsLast (minimizeRounds opts o input s) := by
  unfold minimizeRounds
  rcases minimizeRoundsWith_cases (opts.scan o) opts o input _ with hnone | ⟨_, s1, hrounds⟩
  · rw [hnone]
    exact ⟨nofun, nofun⟩
  · rw [hrounds]
    exact rounds_endsLast (opts.scan o) Nat.two_pos s1

theorem length_minimizeRounds_le (opts : Options) (o : Oracle σ) (input : Candidate)
    (s : Session σ) :
    (minimizeRounds opts o input s).length ≤ input.length * (input.length + 1) := by
  unfold minimizeRounds
  rcases minimizeRoundsWith_cases (opts.scan o) opts o input _ with hnone | ⟨hlen, s1, hrounds⟩
  · rw [hnone]
    exact Nat.zero_le _
  · have hle := length_rounds_le (opts.scan o) (.initial input) Nat.two_pos s1
    have hbudget : (State.initial input).budget =
        input.length * input.length + (input.length - min 2 input.length) + 1 := rfl
    rw [hrounds, Nat.mul_add]
    omega

/-- **Searches end.** Whatever the oracle answers, a round that does not end the search leaves
    less to do: a reduction shortens the candidate, and a refinement keeps it and splits it into
    more parts, at most as many as it has bytes. So no sequence of rounds goes on for ever.

    From any state with at least one part, rounds are made until one ends the search, which comes
    to what that round comes to, and there is a bound on their number; so it is when an input is
    minimized, whatever the input and the options are: its rounds lead to its outcome, a result or
    an error. -/
theorem search_terminates :
    (∀ (σ : Type) (scan : Scan σ) (st : State) (s s' : Session σ) (r : Step),
      0 < st.granularity → step scan st s = (.ok r, s') → r ≠ .done →
      Prod.Lex (· < ·) (· < ·) (st.after r).rest st.rest ∧ 0 < (st.after r).granularity ∧
      (∀ phase i next, r = .reduced phase i next →
        next.candidate.length < st.candidate.length) ∧
      ∀ g, r = .refined g → st.after r = ⟨st.candidate, g⟩ ∧
        min st.granularity st.candidate.length < g ∧ g ≤ st.candidate.length) ∧
    WellFounded State.Follows ∧
    (∀ (σ : Type) (scan : Scan σ) (st : State) (hg : 0 < st.granularity) (s : Session σ),
      EndsLast (rounds scan st hg s) ∧
      (∃ last, (rounds scan st hg s).getLast? = some last ∧
        descend scan st hg s = (last.outcome.map fun _ => last.state, last.after)) ∧
      (rounds scan st hg s).length ≤ st.candidate.length * (st.candidate.length + 1) + 1) ∧
    ∀ (σ : Type) (opts : Options) (o : Oracle σ) (input : Candidate) (s : Session σ),
      MinimizesBy (opts.scan o) opts o input { s with tally := {} } (minimizeRounds opts o input s)
        (minimize opts o input s) ∧
      EndsLast (minimizeRounds opts o input s) ∧
      (minimizeRounds opts o input s).length ≤ input.length * (input.length + 1) := by
  refine ⟨?_, State.follows_wellFounded, ?_, ?_⟩
  · intro σ scan st s s' r hg h hr
    refine ⟨step_rest_lt h hr hg, step_granularity_pos h hg, ?_, ?_⟩
    · rintro phase i next rfl
      exact (step_reduced h).1
    · rintro g rfl
      obtain ⟨hlt, hle⟩ := step_refined h hg
      exact ⟨rfl, Nat.lt_of_le_of_lt (Nat.min_le_left _ _) hlt, hle⟩
  · intro σ scan st hg s
    refine ⟨rounds_endsLast scan hg s, ?_,
      Nat.le_trans (length_rounds_le scan st hg s) (State.budget_le hg)⟩
    obtain ⟨earlier, last, hrounds, _, _, hdescend⟩ := rounds_shape scan hg s
    exact ⟨last, by rw [hrounds, List.getLast?_concat], hdescend⟩
  · intro σ opts o input s
    exact ⟨minimizeWith_minimizesBy (opts.scan o) opts o input _,
      minimizeRounds_endsLast opts o input s, length_minimizeRounds_le opts o input s⟩

/-- The first round of a search that refines its split, and the number of rounds of another. -/
theorem search_terminates_failsOn :
    (∃ s', step (scanInOrder (Oracle.ofFunction (failsOn [99, 100])) false) ⟨[97, 99, 98, 100], 2⟩
        (Session.start ()) = (.ok (.refined 4), s') ∧
      Prod.Lex (· < ·) (· < ·) (State.rest ⟨[97, 99, 98, 100], 4⟩)
        (State.rest ⟨[97, 99, 98, 100], 2⟩)) ∧
    (minimizeRounds {} (Oracle.ofFunction (failsOn [99, 100])) [97, 99, 98, 100]
      (Session.start ())).length ≤ 20 := by
  have hstep : (step (scanInOrder (Oracle.ofFunction (failsOn [99, 100])) false)
      ⟨[97, 99, 98, 100], 2⟩ (Session.start ())).1 = .ok (.refined 4) := by
    cbv
  have h := Prod.fst_eq_iff.mp hstep
  refine ⟨⟨_, h, ?_⟩, (search_terminates.2.2.2 Unit _ _ _ _).2.2⟩
  exact (search_terminates.1 Unit _ _ _ _ _ Nat.two_pos h fun he => by cases he).1

end DeltaDebug
