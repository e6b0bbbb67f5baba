import DeltaDebug.Search.Minimize
import DeltaDebug.Proofs.Round

/-
  Whole searches, as lists of rounds. `State.rest` is what is left to do: the length of the
  candidate and, at equal length, how far its split is from the finest one. Every round that does
  not end the search makes it smaller in the lexicographic order (`step_rest_lt`), whatever the
  scan answers, so `rounds` lists all rounds of a search, and the list is finite.

  `descend_induction` is the induction over a search, proved once: what holds of a search that is
  at its end, and of a search if it holds of what follows its first round, holds of all searches.
  From it come the shape of the list (`rounds_shape`), what every round of a search has
  (`rounds_invariant`), what a search costs (`descend_potential`), where it ends
  (`descend_candidate`, `descend_sublist`), and how the session at the end goes back to the one at
  the start (`Scan.Links`). `descend_induction_agree` is the same for two searches at once whose
  scans have the same outcomes.

  `Trail` and `MinimizesBy` say which rounds lead to which outcome, errors included, without the
  functions that compute either; `trail_rounds` and `minimizeWith_minimizesBy` say that the rounds
  listed here are those of the search.
-/

namespace DeltaDebug

variable {σ τ : Type}

/-! ## What is left to do -/

/-- The length of the candidate, and how many parts its split lacks of the finest one. -/
def State.rest (st : State) : Nat × Nat :=
  (st.candidate.length, st.candidate.length - min st.granularity st.candidate.length)

/-- The session in which the round after `r` starts. -/
def Session.proceed (s : Session σ) (st : State) : Step → Session σ
  | .reduced phase index next =>
    s.adopt phase index st.candidate.length next.candidate.length
  | .refined g => s.refine st.candidate.length g
  | .done => s

namespace Session

variable (s : Session σ) (st : State) (r : Step)

@[simp] theorem calls_proceed : (s.proceed st r).calls = s.calls := by
  cases r with
  | done => rfl
  | reduced phase i next => exact s.calls_note _
  | refined g => exact s.calls_note _

/-- What is counted between two rounds has nothing to do with probes. -/
theorem counts_proceed_probes :
    (s.proceed st r).tally.invocations = s.tally.invocations ∧
      (s.proceed st r).tally.cancelled = s.tally.cancelled ∧
      (s.proceed st r).tally.unresolved = s.tally.unresolved := by
  cases r with
  | done => exact ⟨rfl, rfl, rfl⟩
  | refined g => exact ⟨rfl, rfl, rfl⟩
  | reduced phase i next => cases phase <;> exact ⟨rfl, rfl, rfl⟩

end Session

section Step

variable {scan : Scan σ} {st : State} {s s' : Session σ} {r : Step}

/-- A round that does not end the search leaves less to do. -/
theorem step_rest_lt (h : step scan st s = (.ok r, s')) (hr : r ≠ .done)
    (hg : 0 < st.granularity) : Prod.Lex (· < ·) (· < ·) (st.after r).rest st.rest := by
  cases r with
  | done => exact absurd rfl hr
  | reduced phase i next => exact Prod.Lex.left _ _ (step_reduced h).1
  | refined g =>
    have hlt := step_refined h hg
    refine Prod.Lex.right _ ?_
    simp only [State.after]
    omega

theorem step_granularity_pos (h : step scan st s = (.ok r, s')) (hg : 0 < st.granularity) :
    0 < (st.after r).granularity := by
  cases r with
  | done => exact hg
  | reduced phase i next => exact (step_reduced h).2
  | refined g => exact Nat.lt_of_le_of_lt (Nat.zero_le _) (step_refined h hg).1

/-- A round keeps bytes of its candidate, in their order. -/
theorem step_sublist (h : step scan st s = (.ok r, s')) :
    (st.after r).candidate.Sublist st.candidate := by
  rcases step_candidate h with he | ⟨i, _, _, he⟩ | ⟨i, _, _, _, he⟩
  · exact he ▸ List.Sublist.refl _
  · exact he ▸ Partition.complement_sublist _ _ _
  · exact he ▸ Partition.chunk_sublist _ _ _

end Step

/-! ## Rounds -/

/-- One round of a search: where it started, what it came to, and the session around it. -/
structure Round (σ : Type) where
  state : State
  before : Session σ
  outcome : Except OracleError Step
  after : Session σ

/-- The rounds of a search, in their order. -/
def rounds (scan : Scan σ) (st : State) (hg : 0 < st.granularity) (s : Session σ) :
    List (Round σ) :=
  match h : step scan st s with
  | (.error e, s') => [⟨st, s, .error e, s'⟩]
  | (.ok r, s') =>
    ⟨st, s, .ok r, s'⟩ ::
      if r = .done then []
      else rounds scan (st.after r) (step_granularity_pos h hg) (s'.proceed st r)
termination_by st.rest
decreasing_by exact step_rest_lt h ‹_› hg

section Equations

variable {scan : Scan σ} {st : State} {hg : 0 < st.granularity} {s s' : Session σ}

theorem rounds_error {e : OracleError} (h : step scan st s = (.error e, s')) :
    rounds scan st hg s = [⟨st, s, .error e, s'⟩] := by
  rw [rounds]
  split
  case h_1 heq => rw [h] at heq; cases heq; rfl
  case h_2 heq => rw [h] at heq; cases heq

theorem rounds_done (h : step scan st s = (.ok .done, s')) :
    rounds scan st hg s = [⟨st, s, .ok .done, s'⟩] := by
  rw [rounds]
  split
  case h_1 heq => rw [h] at heq; cases heq
  case h_2 heq => rw [h] at heq; cases heq; rfl

theorem rounds_next {r : Step} (h : step scan st s = (.ok r, s')) (hr : r ≠ .done) :
    rounds scan st hg s = ⟨st, s, .ok r, s'⟩ ::
      rounds scan (st.after r) (step_granularity_pos h hg) (s'.proceed st r) := by
  rw [rounds]
  split
  case h_1 heq => rw [h] at heq; cases heq
  case h_2 heq => rw [h] at heq; cases heq; rw [if_neg hr]

theorem descend_error {e : OracleError} (h : step scan st s = (.error e, s')) :
    descend scan st hg s = (.error e, s') := by
  rw [descend]
  split <;> rename_i heq <;> rw [h] at heq <;> cases heq
  rfl

theorem descend_done (h : step scan st s = (.ok .done, s')) :
    descend scan st hg s = (.ok st, s') := by
  rw [descend]
  split <;> rename_i heq <;> rw [h] at heq <;> cases heq
  rfl

theorem descend_next {r : Step} (h : step scan st s = (.ok r, s')) (hr : r ≠ .done) :
    descend scan st hg s =
      descend scan (st.after r) (step_granularity_pos h hg) (s'.proceed st r) := by
  rw [descend]
  split <;> rename_i heq <;> rw [h] at heq <;> cases heq
  · exact absurd rfl hr
  · rfl
  · rfl

end Equations

/-- Induction over a search: it is at its end, or what holds of the search that follows the first
    round is to be shown of the whole. -/
theorem descend_induction (scan : Scan σ)
    {motive : (st : State) → 0 < st.granularity → Session σ → Prop}
    (error : ∀ st hg s e s', step scan st s = (.error e, s') → motive st hg s)
    (done : ∀ st hg s s', step scan st s = (.ok .done, s') → motive st hg s)
    (next : ∀ st hg s r s' (h : step scan st s = (.ok r, s')), r ≠ .done →
      motive (st.after r) (step_granularity_pos h hg) (s'.proceed st r) → motive st hg s)
    (st : State) (hg : 0 < st.granularity) (s : Session σ) : motive st hg s := by
  rcases h : step scan st s with ⟨_ | r, s'⟩
  · exact error st hg s _ s' h
  · by_cases hr : r = .done
    · exact done st hg s s' (hr ▸ h)
    · exact next st hg s r s' h hr (descend_induction scan error done next _ _ _)
termination_by st.rest
decreasing_by exact step_rest_lt h hr hg

/-- Induction over two searches at once. If their scans have the same outcomes, they make the same
    rounds, each in sessions of its own. -/
theorem descend_induction_agree {scan : Scan σ} {scan' : Scan τ} (hagree : scan.Agree scan')
    {motive : (st : State) → 0 < st.granularity → Session σ → Session τ → Prop}
    (error : ∀ st hg s t e s' t', step scan st s = (.error e, s') →
      step scan' st t = (.error e, t') → motive st hg s t)
    (done : ∀ st hg s t s' t', step scan st s = (.ok .done, s') →
      step scan' st t = (.ok .done, t') → motive st hg s t)
    (next : ∀ st hg s t r s' t' (h : step scan st s = (.ok r, s')),
      step scan' st t = (.ok r, t') → r ≠ .done →
      motive (st.after r) (step_granularity_pos h hg) (s'.proceed st r) (t'.proceed st r) →
      motive st hg s t)
    (st : State) (hg : 0 < st.granularity) (s : Session σ) (t : Session τ) :
    motive st hg s t := by
  have hsame : ∀ {st s r s'} (t : Session τ), step scan st s = (r, s') →
      ∃ t', step scan' st t = (r, t') := by
    intro st s r s' t h
    have hr := step_agree hagree st s t
    rw [h] at hr
    exact ⟨_, Prod.ext hr.symm rfl⟩
  induction st, hg, s using descend_induction scan generalizing t with
  | error st hg s e s' h =>
    obtain ⟨t', h'⟩ := hsame t h
    exact error st hg s t e s' t' h h'
  | done st hg s s' h =>
    obtain ⟨t', h'⟩ := hsame t h
    exact done st hg s t s' t' h h'
  | next st hg s r s' h hr ih =>
    obtain ⟨t', h'⟩ := hsame t h
    exact next st hg s t r s' t' h h' hr (ih _)

/-! ## The list of rounds -/

/-- A search from a state, in a session, makes these rounds and comes to this: every round is a step
    from where the one before left off, and the first that ends the search is the last. -/
inductive Trail (scan : Scan σ) :
    State → Session σ → List (Round σ) → Except OracleError State × Session σ → Prop
  | error {st : State} {s s' : Session σ} {e : OracleError} (h : step scan st s = (.error e, s')) :
      Trail scan st s [⟨st, s, .error e, s'⟩] (.error e, s')
  | done {st : State} {s s' : Session σ} (h : step scan st s = (.ok .done, s')) :
      Trail scan st s [⟨st, s, .ok .done, s'⟩] (.ok st, s')
  | next {st : State} {s s' : Session σ} {r : Step} {later : List (Round σ)}
      {x : Except OracleError State × Session σ} (h : step scan st s = (.ok r, s'))
      (hr : r ≠ .done) (rest : Trail scan (st.after r) (s'.proceed st r) later x) :
      Trail scan st s (⟨st, s, .ok r, s'⟩ :: later) x

theorem trail_rounds (scan : Scan σ) (st : State) (hg : 0 < st.granularity) (s : Session σ) :
    Trail scan st s (rounds scan st hg s) (descend scan st hg s) := by
  induction st, hg, s using descend_induction scan with
  | error st hg s e s' h =>
    rw [rounds_error h, descend_error h]
    exact .error h
  | done st hg s s' h =>
    rw [rounds_done h, descend_done h]
    exact .done h
  | next st hg s r s' h hr ih =>
    rw [rounds_next h hr, descend_next h hr]
    exact .next h hr ih

section Trail

variable {scan : Scan σ} {st : State} {s : Session σ} {all : List (Round σ)}
  {x : Except OracleError State × Session σ}

theorem Trail.step_eq (h : Trail scan st s all x) {round : Round σ} (hround : round ∈ all) :
    step scan round.state round.before = (round.outcome, round.after) := by
  induction h with
  | error h =>
    obtain rfl := List.mem_singleton.mp hround
    exact h
  | done h =>
    obtain rfl := List.mem_singleton.mp hround
    exact h
  | next h _ _ ih =>
    rcases List.mem_cons.mp hround with rfl | hround
    · exact h
    · exact ih hround

theorem Trail.exists_first (h : Trail scan st s all x) : ∃ round ∈ all, round.state = st := by
  cases h with
  | error => exact ⟨_, List.mem_cons_self, rfl⟩
  | done => exact ⟨_, List.mem_cons_self, rfl⟩
  | next => exact ⟨_, List.mem_cons_self, rfl⟩

/-- After a round that does not end the search there is one from the state that it leads to. -/
theorem Trail.exists_after (h : Trail scan st s all x) {round : Round σ} (hround : round ∈ all)
    {r : Step} (houtcome : round.outcome = .ok r) (hr : r ≠ .done) :
    ∃ later ∈ all, later.state = round.state.after r := by
  induction h with
  | error =>
    obtain rfl := List.mem_singleton.mp hround
    cases houtcome
  | done =>
    obtain rfl := List.mem_singleton.mp hround
    cases houtcome
    exact absurd rfl hr
  | next _ _ rest ih =>
    rcases List.mem_cons.mp hround with rfl | hround
    · cases houtcome
      obtain ⟨later, hmem, hstate⟩ := rest.exists_first
      exact ⟨later, List.mem_cons_of_mem _ hmem, hstate⟩
    · obtain ⟨later, hmem, hstate⟩ := ih hround
      exact ⟨later, List.mem_cons_of_mem _ hmem, hstate⟩

end Trail

section Rounds

variable (scan : Scan σ) {st : State} (hg : 0 < st.granularity) (s : Session σ)

/-- All rounds but the last go on; the last ends the search, by an error or because nothing
    smaller fails, and the outcome of the search is where the last round left it. -/
theorem rounds_shape : ∃ earlier last, rounds scan st hg s = earlier ++ [last] ∧
    (∀ round ∈ earlier, ∃ r, round.outcome = .ok r ∧ r ≠ .done) ∧
    (∀ r, last.outcome = .ok r → r = .done) ∧
    descend scan st hg s = (last.outcome.map fun _ => last.state, last.after) := by
  induction st, hg, s using descend_induction scan with
  | error st hg s e s' h =>
    rw [rounds_error h, descend_error h]
    exact ⟨[], _, rfl, nofun, nofun, rfl⟩
  | done st hg s s' h =>
    rw [rounds_done h, descend_done h]
    exact ⟨[], _, rfl, nofun, fun r hr => (Except.ok.inj hr).symm, rfl⟩
  | next st hg s r s' h hr ih =>
    obtain ⟨earlier, last, hshape, hearlier, hlast, hdescend⟩ := ih
    rw [rounds_next h hr, descend_next h hr, hshape, hdescend]
    refine ⟨_ :: earlier, last, rfl, ?_, hlast, rfl⟩
    intro round hround
    rcases List.mem_cons.mp hround with rfl | hround
    · exact ⟨r, rfl, hr⟩
    · exact hearlier round hround

/-- Every round is a step, and a property that holds at the start of a search and that rounds hand
    on holds at the start of every round. -/
theorem rounds_invariant {P : State → Session σ → Prop}
    (hnext : ∀ st s r s', P st s → step scan st s = (.ok r, s') → r ≠ .done →
      P (st.after r) (s'.proceed st r)) (h0 : P st s) :
    ∀ round ∈ rounds scan st hg s, P round.state round.before ∧
      step scan round.state round.before = (round.outcome, round.after) := by
  induction st, hg, s using descend_induction scan with
  | error st hg s e s' h =>
    intro round hround
    rw [rounds_error h] at hround
    obtain rfl := List.mem_singleton.mp hround
    exact ⟨h0, h⟩
  | done st hg s s' h =>
    intro round hround
    rw [rounds_done h] at hround
    obtain rfl := List.mem_singleton.mp hround
    exact ⟨h0, h⟩
  | next st hg s r s' h hr ih =>
    intro round hround
    rw [rounds_next h hr] at hround
    rcases List.mem_cons.mp hround with rfl | hround
    · exact ⟨h0, h⟩
    · exact ih (hnext st s r s' h0 h hr) round hround

/-- A search that ends well ends with a round that finds nothing, from a state that has whatever
    rounds hand on. -/
theorem descend_ended {P : State → Session σ → Prop}
    (hnext : ∀ st s r s', P st s → step scan st s = (.ok r, s') → r ≠ .done →
      P (st.after r) (s'.proceed st r)) (h0 : P st s) {st' : State} {s' : Session σ}
    (h : descend scan st hg s = (.ok st', s')) :
    ∃ s0, P st' s0 ∧ step scan st' s0 = (.ok .done, s') := by
  obtain ⟨earlier, last, hshape, _, hlast, hdescend⟩ := rounds_shape scan hg s
  have hmem : last ∈ rounds scan st hg s := by rw [hshape]; simp
  obtain ⟨hP, hstep⟩ := rounds_invariant scan hg s hnext h0 last hmem
  rw [hdescend] at h
  injection h with h1 h2
  subst h2
  rcases hout : last.outcome with e | r
  · rw [hout] at h1
    cases h1
  · rw [hout] at h1 hstep
    obtain rfl : last.state = st' := Except.ok.inj h1
    rw [hlast r hout] at hstep
    exact ⟨last.before, hP, hstep⟩

/-- If no round costs more than the potential that it takes away, a search costs no more than the
    potential that it starts with. -/
theorem descend_potential (cost : Session σ → Nat) (pot final : State → Nat)
    (hnext : ∀ st s r s', 0 < st.granularity → step scan st s = (.ok r, s') → r ≠ .done →
      cost (s'.proceed st r) + pot (st.after r) ≤ cost s + pot st)
    (hdone : ∀ st s s', 0 < st.granularity → step scan st s = (.ok .done, s') →
      cost s' + final st ≤ cost s + pot st)
    {st' : State} {s' : Session σ} (h : descend scan st hg s = (.ok st', s')) :
    cost s' + final st' ≤ cost s + pot st := by
  induction st, hg, s using descend_induction scan with
  | error st hg s e s1 hstep =>
    rw [descend_error hstep] at h
    cases h
  | done st hg s s1 hstep =>
    rw [descend_done hstep] at h
    cases h
    exact hdone _ _ _ hg hstep
  | next st hg s r s1 hstep hr ih =>
    rw [descend_next hstep hr] at h
    exact Nat.le_trans (ih h) (hnext st s r s1 hg hstep hr)

/-- A search keeps bytes of its candidate, in their order. -/
theorem descend_sublist {st' : State} {s' : Session σ}
    (h : descend scan st hg s = (.ok st', s')) : st'.candidate.Sublist st.candidate := by
  obtain ⟨_, hsub, _⟩ := descend_ended scan hg s
    (P := fun st' _ => st'.candidate.Sublist st.candidate)
    (fun _ _ _ _ hP hstep _ => (step_sublist hstep).trans hP) (List.Sublist.refl _) h
  exact hsub

/-- The candidate that the round adopted, if it adopted one. -/
def Round.adopted? (round : Round σ) : Option Candidate :=
  match round.outcome with
  | .ok (.reduced _ _ next) => some next.candidate
  | _ => none

/-- A search ends with the candidate that was adopted last. -/
theorem descend_candidate {st' : State} {s' : Session σ}
    (h : descend scan st hg s = (.ok st', s')) :
    st'.candidate =
      ((rounds scan st hg s).filterMap Round.adopted?).getLast?.getD st.candidate := by
  induction st, hg, s using descend_induction scan with
  | error st hg s e s1 hstep =>
    rw [descend_error hstep] at h
    cases h
  | done st hg s s1 hstep =>
    rw [descend_done hstep] at h
    cases h
    rw [rounds_done hstep]
    rfl
  | next st hg s r s1 hstep hr ih =>
    rw [descend_next hstep hr] at h
    rw [rounds_next hstep hr, ih h]
    cases r with
    | done => exact absurd rfl hr
    | reduced phase i next =>
      simp only [List.filterMap_cons, Round.adopted?, List.getLast?_cons]
      rfl
    | refined g =>
      simp only [List.filterMap_cons, Round.adopted?]
      rfl

end Rounds

/-! ## Sessions before and after -/

/-- The relation holds between the sessions before and after whatever a search does, as long as
    there is no error: it scans, writes to the log and counts its progress. -/
structure Scan.Links (scan : Scan σ) (R : Session σ → Session σ → Prop) : Prop where
  refl : ∀ s, R s s
  trans : ∀ {s s1 s'}, R s s1 → R s1 s' → R s s'
  note : ∀ s e, R s (s.note e)
  proceed : ∀ s st r, R s (s.proceed st r)
  scan : ∀ {count} {build : Fin count → Candidate} {s x s'},
    scan count build s = (.ok x, s') → R s s'

section Links

variable {scan : Scan σ} {R : Session σ → Session σ → Prop} (h : scan.Links R)

include h

theorem Scan.Links.step {st : State} {s s' : Session σ} {r : Step}
    (hstep : step scan st s = (.ok r, s')) : R s s' := by
  have hfirst : ∀ {x s1}, scan st.parts st.complements (s.beginRound st) = (.ok x, s1) →
      R s s1 := fun hc => h.trans (h.note s _) (h.scan hc)
  obtain ⟨_, _, rfl⟩ | ⟨_, hc, _⟩ | ⟨_, _, hc, _, hs, _⟩ | ⟨_, s1, hc, hs, _⟩ :=
    step_ok_cases hstep
  · exact h.refl _
  · exact hfirst hc
  · exact h.trans (hfirst hc) (h.scan hs)
  · split at hs
    · exact h.trans (hfirst hc) (h.scan hs)
    · rw [hs]
      exact hfirst hc

theorem Scan.Links.descend {st st' : State} {hg : 0 < st.granularity} {s s' : Session σ}
    (hdescend : descend scan st hg s = (.ok st', s')) : R s s' := by
  induction st, hg, s using descend_induction scan with
  | error st hg s e s1 hstep =>
    rw [descend_error hstep] at hdescend
    cases hdescend
  | done st hg s s1 hstep =>
    rw [descend_done hstep] at hdescend
    cases hdescend
    exact h.step hstep
  | next st hg s r s1 hstep hr ih =>
    rw [descend_next hstep hr] at hdescend
    exact h.trans (h.step hstep) (h.trans (h.proceed s1 st r) (ih hdescend))

theorem Scan.Links.search {input m : Candidate} {s s' : Session σ}
    (hsearch : search scan input s = (.ok m, s')) : R s s' := by
  unfold DeltaDebug.search at hsearch
  split at hsearch
  · split at hsearch
    case h_1 => cases hsearch
    case h_2 st s1 hdescend =>
      cases hsearch
      exact h.descend hdescend
  · cases hsearch
    exact h.refl _

/-- If the relation holds when the input has been probed, it holds at the end of a minimization,
    where the result is read off. -/
theorem Scan.Links.minimizeWith {opts : Options} {o : Oracle σ} {input : Candidate}
    {s s' : Session σ} {r : Result}
    (hverify : ∀ {s1}, verify opts o input s = (.ok (), s1) → R s s1)
    (hr : minimizeWith scan opts o input s = (.ok r, s')) :
    R s s' ∧ r = s'.result input r.minimized := by
  unfold DeltaDebug.minimizeWith at hr
  split at hr
  case h_1 => cases hr
  case h_2 s1 hv =>
    split at hr
    case h_1 => cases hr
    case h_2 m s2 hs =>
      cases hr
      exact ⟨h.trans (hverify hv) (h.trans (h.search hs) (h.note _ _)), rfl⟩

end Links

/-! ## Minimizations -/

/-- The rounds of a search for a smaller input; an input of at most one byte needs none. -/
def searchRounds (scan : Scan σ) (input : Candidate) (s : Session σ) : List (Round σ) :=
  if 1 < input.length then rounds scan (.initial input) Nat.two_pos s else []

/-- The rounds of a minimization with the given scan; there are none if the input is probed and
    does not fail. -/
def minimizeRoundsWith (scan : Scan σ) (opts : Options) (o : Oracle σ) (input : Candidate)
    (s : Session σ) : List (Round σ) :=
  match verify opts o input s with
  | (.error _, _) => []
  | (.ok (), s) => searchRounds scan input s

/-- The rounds of a minimization. -/
def minimizeRounds (opts : Options) (o : Oracle σ) (input : Candidate) (s : Session σ) :
    List (Round σ) :=
  minimizeRoundsWith (opts.scan o) opts o input { s with tally := {} }

/-- A minimization of the input makes these rounds and comes to this. It makes none if the input is
    probed and not let through, or has at most one byte; else it makes those of a search that starts
    with halves. What the search comes to then decides, be it an error or a candidate. -/
inductive MinimizesBy (scan : Scan σ) (opts : Options) (o : Oracle σ) (input : Candidate)
    (s : Session σ) : List (Round σ) → Except SearchError Result × Session σ → Prop
  | refused {e : SearchError} {s1 : Session σ} (hverify : verify opts o input s = (.error e, s1)) :
      MinimizesBy scan opts o input s [] (.error e, s1)
  | short {s1 : Session σ} (hverify : verify opts o input s = (.ok (), s1))
      (hlen : input.length ≤ 1) :
      MinimizesBy scan opts o input s [] (.ok (s1.result input input),
        s1.note (.finished input.length input.length s1.tally.invocations s1.tally.unresolved))
  | failed {s1 s2 : Session σ} {all : List (Round σ)} {e : OracleError}
      (hverify : verify opts o input s = (.ok (), s1)) (hlen : 1 < input.length)
      (htrail : Trail scan (.initial input) s1 all (.error e, s2)) :
      MinimizesBy scan opts o input s all (.error (.oracle e), s2)
  | found {s1 s2 : Session σ} {all : List (Round σ)} {st : State}
      (hverify : verify opts o input s = (.ok (), s1)) (hlen : 1 < input.length)
      (htrail : Trail scan (.initial input) s1 all (.ok st, s2)) :
      MinimizesBy scan opts o input s all (.ok (s2.result input st.candidate),
        s2.note (.finished input.length st.candidate.length s2.tally.invocations
          s2.tally.unresolved))

/-- The rounds of a minimization lead to its outcome, whatever that is. -/
theorem minimizeWith_minimizesBy (scan : Scan σ) (opts : Options) (o : Oracle σ)
    (input : Candidate) (s : Session σ) :
    MinimizesBy scan opts o input s (minimizeRoundsWith scan opts o input s)
      (minimizeWith scan opts o input s) := by
  unfold minimizeRoundsWith minimizeWith
  rcases hverify : verify opts o input s with ⟨e | _, s1⟩
  · exact .refused hverify
  · dsimp only
    unfold searchRounds search
    by_cases hlen : 1 < input.length
    · have htrail := trail_rounds scan (.initial input) Nat.two_pos s1
      rw [if_pos hlen, if_pos hlen]
      generalize descend scan (.initial input) Nat.two_pos s1 = x at htrail ⊢
      rcases x with ⟨e | st, s2⟩
      · exact .failed hverify hlen htrail
      · exact .found hverify hlen htrail
    · rw [if_neg hlen, if_neg hlen]
      exact .short hverify (Nat.le_of_not_lt hlen)

/-- A minimization has no rounds, or they are those of a search from the input, which then has at
    least two bytes. -/
theorem minimizeRoundsWith_cases (scan : Scan σ) (opts : Options) (o : Oracle σ)
    (input : Candidate) (s : Session σ) :
    minimizeRoundsWith scan opts o input s = [] ∨ 1 < input.length ∧
      ∃ s1, minimizeRoundsWith scan opts o input s =
        rounds scan (.initial input) Nat.two_pos s1 := by
  unfold minimizeRoundsWith
  split
  · exact Or.inl rfl
  · unfold searchRounds
    split
    case isFalse => exact Or.inl rfl
    case isTrue hlen => exact Or.inr ⟨hlen, _, rfl⟩

section Minimize

variable {scan : Scan σ} {opts : Options} {o : Oracle σ} {input : Candidate} {s s' : Session σ}

theorem search_of_short (h : input.length ≤ 1) : search scan input s = (.ok input, s) :=
  if_neg (Nat.not_lt.mpr h)

/-- A search that ends well is over at once, or descends from the input. -/
theorem search_ok {m : Candidate} (h : search scan input s = (.ok m, s')) :
    (input.length ≤ 1 ∧ m = input ∧ searchRounds scan input s = []) ∨
      (1 < input.length ∧
        (∃ st, descend scan (.initial input) Nat.two_pos s = (.ok st, s') ∧ st.candidate = m) ∧
        searchRounds scan input s = rounds scan (.initial input) Nat.two_pos s) := by
  unfold search at h
  unfold searchRounds
  split at h
  case isFalse hlen =>
    cases h
    exact Or.inl ⟨Nat.le_of_not_lt hlen, rfl, if_neg hlen⟩
  case isTrue hlen =>
    split at h
    case h_1 => cases h
    case h_2 st s1 hd =>
      cases h
      exact Or.inr ⟨hlen, ⟨st, hd, rfl⟩, if_pos hlen⟩

theorem search_of_descend {st : State} (hlen : 1 < input.length)
    (h : descend scan (.initial input) Nat.two_pos s = (.ok st, s')) :
    search scan input s = (.ok st.candidate, s') := by
  unfold search
  rw [if_pos hlen, h]

/-- An input that may be minimized was not probed, or failed and was counted. -/
theorem verify_ok (h : verify opts o input s = (.ok (), s')) :
    (opts.verifyInput = false ∧ s' = s) ∨
      (opts.verifyInput = true ∧ ∃ p s1, probe o opts.doubleCheck input s = (.ok p, s1) ∧
        s' = s1.record p) := by
  unfold verify at h
  split at h
  case isFalse hv =>
    cases h
    exact Or.inl ⟨Bool.eq_false_iff.mpr hv, rfl⟩
  case isTrue hv =>
    split at h
    case h_1 => cases h
    case h_2 p s1 hp =>
      dsimp only at h
      split at h
      · cases h
        exact Or.inr ⟨hv, p, s1, hp, rfl⟩
      · cases h

/-- A minimization that ends well is a search that ends well, in the session that is left when the
    input has been probed. -/
theorem minimizeWith_ok {r : Result} (h : minimizeWith scan opts o input s = (.ok r, s')) :
    ∃ s1 s2 m, verify opts o input s = (.ok (), s1) ∧ search scan input s1 = (.ok m, s2) ∧
      r = s2.result input m ∧
      minimizeRoundsWith scan opts o input s = searchRounds scan input s1 := by
  unfold minimizeWith at h
  unfold minimizeRoundsWith
  split at h
  case h_1 => cases h
  case h_2 s1 hv =>
    split at h
    case h_1 => cases h
    case h_2 m s2 hs =>
      cases h
      rw [hv]
      exact ⟨s1, s2, m, rfl, hs, rfl, rfl⟩

/-- And the other way round: a search that ends well after the input was let through is a
    minimization that ends well. -/
theorem minimizeWith_of_search {s1 s2 : Session σ} {m : Candidate}
    (hverify : verify opts o input s = (.ok (), s1))
    (hsearch : search scan input s1 = (.ok m, s2)) :
    minimizeWith scan opts o input s = (.ok (s2.result input m),
      s2.note (.finished input.length m.length s2.tally.invocations s2.tally.unresolved)) := by
  unfold minimizeWith
  rw [hverify]
  dsimp only
  rw [hsearch]

end Minimize

end DeltaDebug
