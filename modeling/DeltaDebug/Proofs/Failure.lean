import DeltaDebug.Proofs.Account
import Mathlib.Data.List.Permutation

/-
  How searches fail. `Scan.Breaks` is to searches with an error what `Scan.Links` is to searches
  without one: if a relation between sessions holds around the error of a scan, and goes back over
  whatever the search did before, it holds around an error of the whole search.

  A search in order makes no call after one that is an error (`breaks_scanInOrder`). So the calls of
  a checked minimization say how it ends (`DriveEnd`, `drive_ends`): with the error of its last
  call, if that is one, and otherwise with a result or because the input does not fail.
-/

namespace DeltaDebug

variable {σ α : Type} {confirm : Bool}

/-! ## Errors of a search -/

/-- `R` links the sessions before and after whatever a search does without an error, and `E` holds
    of the sessions around an error, however much of the search comes before it. -/
structure Scan.Breaks (look : Scan σ) (R : Session σ → Session σ → Prop)
    (E : Session σ → OracleError → Session σ → Prop) : Prop extends look.Links R where
  before : ∀ {s s1 e s'}, R s s1 → E s1 e s' → E s e s'
  error : ∀ {count} {build : Fin count → Candidate} {s e s'},
    look count build s = (.error e, s') → E s e s'

section Breaks

variable {scan : Scan σ} {R : Session σ → Session σ → Prop}
  {E : Session σ → OracleError → Session σ → Prop} (h : scan.Breaks R E)

include h

theorem Scan.Breaks.step {st : State} {s s' : Session σ} {e : OracleError}
    (hstep : step scan st s = (.error e, s')) : E s e s' := by
  have hround := step_rounded scan st s
  rw [hstep] at hround
  cases hround with
  | complementError _ hc => exact h.before (h.note s _) (h.error hc)
  | chunkError _ hc _ hs =>
    exact h.before (h.note s _) (h.before (h.scan hc) (h.error hs))

theorem Scan.Breaks.descend {st : State} {hg : 0 < st.granularity} {s s' : Session σ}
    {e : OracleError} (hdescend : descend scan st hg s = (.error e, s')) : E s e s' := by
  induction st, hg, s using descend_induction scan with
  | error st hg s e1 s1 hstep =>
    rw [descend_error hstep] at hdescend
    cases hdescend
    exact h.step hstep
  | done st hg s s1 hstep =>
    rw [descend_done hstep] at hdescend
    cases hdescend
  | next st hg s r s1 hstep hr ih =>
    rw [descend_next hstep hr] at hdescend
    have hrest := ih hdescend
    exact h.before (h.toLinks.step hstep) (h.before (h.proceed s1 st r) hrest)

theorem Scan.Breaks.search {input : Candidate} {s s' : Session σ} {e : OracleError}
    (hsearch : search scan input s = (.error e, s')) : E s e s' := by
  unfold DeltaDebug.search at hsearch
  split at hsearch
  · split at hsearch
    case h_1 e1 s1 hdescend =>
      cases hsearch
      exact h.descend hdescend
    case h_2 => cases hsearch
  · cases hsearch

end Breaks

/-- A minimization fails when the input is probed, or in the search. -/
theorem minimizeWith_error {scan : Scan σ} {opts : Options} {o : Oracle σ} {input : Candidate}
    {s s' : Session σ} {err : SearchError}
    (h : minimizeWith scan opts o input s = (.error err, s')) :
    verify opts o input s = (.error err, s') ∨
      ∃ e s1, verify opts o input s = (.ok (), s1) ∧ search scan input s1 = (.error e, s') ∧
        err = .oracle e := by
  unfold minimizeWith at h
  split at h
  case h_1 err1 s1 hv =>
    cases h
    exact Or.inl hv
  case h_2 s1 hv =>
    split at h
    case h_1 e s2 hs =>
      cases h
      exact Or.inr ⟨e, s1, hv, hs, rfl⟩
    case h_2 => cases h

/-- The input is refused because it could not be probed, or was probed and does not fail. -/
theorem verify_error {opts : Options} {o : Oracle σ} {input : Candidate} {s s' : Session σ}
    {err : SearchError} (h : verify opts o input s = (.error err, s')) :
    opts.verifyInput = true ∧ ∃ q : Inquiry opts.doubleCheck, q.candidate = input ∧
      s'.calls = s.calls ++ q.calls ∧
      ((∃ e, q.finding = .error e ∧ err = .oracle e) ∨
        ∃ p, q.finding = .ok p ∧ p.verdict.getD .unresolved ≠ .fails ∧
          err = .inputDoesNotFail (p.verdict.getD .unresolved)) := by
  obtain ⟨q, hq, hprobed⟩ := probe_inquiry o opts.doubleCheck input s
  unfold verify at h
  split at h
  case isFalse => cases h
  case isTrue hv =>
    split at h
    case h_1 e s1 hp =>
      rw [hp] at hprobed
      cases h
      exact ⟨hv, q, hq, hprobed.calls, Or.inl ⟨e, hprobed.finding.symm, rfl⟩⟩
    case h_2 p s1 hp =>
      rw [hp] at hprobed
      dsimp only at h
      split at h
      case isTrue => cases h
      case isFalse hne =>
        cases h
        exact ⟨hv, q, hq, hprobed.calls, Or.inr ⟨p, hprobed.finding.symm, hne, rfl⟩⟩

/-! ## The last call -/

/-- No call of the list is an error. -/
def Faultless (calls : List (Candidate × Answer)) : Prop :=
  ∀ c e, (c, Except.error e) ∉ calls

/-- The last call of the list is the error `e`, and no other is an error. -/
def EndsIn (e : OracleError) (calls : List (Candidate × Answer)) : Prop :=
  ∃ earlier c, calls = earlier ++ [(c, .error e)] ∧ Faultless earlier

theorem faultless_nil : Faultless [] := nofun

theorem Faultless.append {calls calls' : List (Candidate × Answer)} (h : Faultless calls)
    (h' : Faultless calls') : Faultless (calls ++ calls') := by
  intro c e hmem
  rcases List.mem_append.mp hmem with hmem | hmem
  · exact h c e hmem
  · exact h' c e hmem

theorem faultless_cons {c : Candidate} {a : Option Verdict} {calls : List (Candidate × Answer)}
    (h : Faultless calls) : Faultless ((c, .ok a) :: calls) := by
  intro c' e hmem
  rcases List.mem_cons.mp hmem with heq | hmem
  · cases heq
  · exact h c' e hmem

theorem EndsIn.prepend {e : OracleError} {calls calls' : List (Candidate × Answer)}
    (h : Faultless calls) (h' : EndsIn e calls') : EndsIn e (calls ++ calls') := by
  obtain ⟨earlier, c, rfl, hearlier⟩ := h'
  exact ⟨calls ++ earlier, c, (List.append_assoc ..).symm, h.append hearlier⟩

theorem endsIn_singleton (c : Candidate) (e : OracleError) : EndsIn e [(c, .error e)] :=
  ⟨[], c, rfl, faultless_nil⟩

/-- Nothing comes after an error, and the list ends in that error. -/
theorem EndsIn.eq_of_mem {e e' : OracleError} {c : Candidate}
    {calls earlier later : List (Candidate × Answer)} (h : EndsIn e calls)
    (hsplit : calls = earlier ++ (c, .error e') :: later) :
    later = [] ∧ e' = e ∧ calls.length = earlier.length + 1 := by
  obtain ⟨first, c', rfl, hfirst⟩ := h
  rcases List.eq_nil_or_concat later with rfl | ⟨later', x, rfl⟩
  · obtain ⟨rfl, hlast⟩ := List.append_inj' hsplit rfl
    cases hlast
    exact ⟨rfl, rfl, by simp⟩
  · -- then the error would stand among the first calls
    have hsplit' : first ++ [(c', .error e)] = (earlier ++ (c, .error e') :: later') ++ [x] := by
      simpa using hsplit
    obtain ⟨rfl, _⟩ := List.append_inj' hsplit' rfl
    exact absurd (List.mem_append_right _ List.mem_cons_self) (hfirst c e')

theorem Faultless.ne_append {c : Candidate} {e : OracleError}
    {calls earlier later : List (Candidate × Answer)} (h : Faultless calls) :
    calls ≠ earlier ++ (c, .error e) :: later := by
  rintro rfl
  exact h c e (List.mem_append_right _ List.mem_cons_self)

theorem EndsIn.not_faultless {e : OracleError} {calls : List (Candidate × Answer)}
    (h : EndsIn e calls) : ¬ Faultless calls := by
  obtain ⟨earlier, c, rfl, _⟩ := h
  intro hfaultless
  exact hfaultless.ne_append rfl

namespace Inquiry

/-- An inquiry that comes to a probe met no error, and one that does not ends in the error that it
    comes to. -/
theorem calls_of_finding (q : Inquiry confirm) :
    match q.finding with
    | .ok _ => Faultless q.calls
    | .error e => EndsIn e q.calls := by
  obtain ⟨c, first, second, hs⟩ := q
  cases second with
  | none =>
    rcases first with e | _ | v
    · exact endsIn_singleton c e
    · exact faultless_cons faultless_nil
    · exact faultless_cons faultless_nil
  | some a =>
    obtain ⟨rfl, rfl⟩ := hs.mp rfl
    rcases a with e | _ | v
    · exact (endsIn_singleton c e).prepend (faultless_cons faultless_nil)
    · exact faultless_cons (faultless_cons faultless_nil)
    · cases v <;> exact faultless_cons (faultless_cons faultless_nil)

theorem faultless_of_ok {q : Inquiry confirm} {p : Probe} (h : q.finding = .ok p) :
    Faultless q.calls := by
  have hcalls := q.calls_of_finding
  rw [h] at hcalls
  exact hcalls

theorem endsIn_of_error {q : Inquiry confirm} {e : OracleError} (h : q.finding = .error e) :
    EndsIn e q.calls := by
  have hcalls := q.calls_of_finding
  rw [h] at hcalls
  exact hcalls

end Inquiry

/-- A scan in order goes on after an inquiry only if it met no error. -/
theorem Scanned.calls_of_outcome {build : α → Candidate} {is : List α}
    {qs : List (Inquiry confirm)} {r : Except OracleError (Option α)}
    (h : Scanned build is qs r) :
    match r with
    | .ok _ => Faultless (qs.flatMap Inquiry.calls)
    | .error e => EndsIn e (qs.flatMap Inquiry.calls) := by
  induction h with
  | nil => exact faultless_nil
  | error _ he =>
    rw [List.flatMap_singleton]
    exact Inquiry.endsIn_of_error he
  | found _ hf =>
    obtain ⟨p, hp, _⟩ := hf
    rw [List.flatMap_singleton]
    exact Inquiry.faultless_of_ok hp
  | @next _ _ _ _ r _ _ hp _ _ ih =>
    have hfirst := Inquiry.faultless_of_ok hp
    rw [List.flatMap_cons]
    cases r with
    | ok x => exact hfirst.append ih
    | error e => exact ih.prepend hfirst

/-- A search in order makes no call after an error. -/
theorem breaks_scanInOrder (o : Oracle σ) (confirm : Bool) :
    (scanInOrder o confirm).Breaks
      (fun s s' => ∃ made, s'.calls = s.calls ++ made ∧ Faultless made)
      (fun s e s' => ∃ made, s'.calls = s.calls ++ made ∧ EndsIn e made) where
  refl s := ⟨[], (List.append_nil _).symm, faultless_nil⟩
  trans := fun ⟨made, h, hmade⟩ ⟨made', h', hmade'⟩ =>
    ⟨made ++ made', by rw [h', h, List.append_assoc], hmade.append hmade'⟩
  note s e := ⟨[], by rw [s.calls_note, List.append_nil], faultless_nil⟩
  proceed s st r := ⟨[], by rw [s.calls_proceed, List.append_nil], faultless_nil⟩
  scan h := by
    obtain ⟨qs, hs, hr⟩ := scanInOrder_spec h
    exact ⟨_, hr.calls, hs.calls_of_outcome⟩
  before := fun ⟨made, h, hmade⟩ ⟨made', h', hmade'⟩ =>
    ⟨made ++ made', by rw [h', h, List.append_assoc], hmade'.prepend hmade⟩
  error h := by
    obtain ⟨qs, hs, hr⟩ := scanInOrder_spec h
    exact ⟨_, hr.calls, hs.calls_of_outcome⟩

/-! ## Checked minimizations -/

/-- How a checked minimization ends, by the calls that it made. -/
inductive DriveEnd (opts : Options) (input : Candidate) :
    List (Candidate × Answer) → Except DriveError Result → Prop
  /-- The first call is an error. -/
  | broken (e : OracleError) : DriveEnd opts input [(input, .error e)] (.error (.oracle e))
  /-- The first call does not see the input fail. -/
  | passed {v : Option Verdict} (hv : v.getD .unresolved ≠ .fails) :
      DriveEnd opts input [(input, .ok v)] (.error (.notFailing (v.getD .unresolved)))
  /-- The first call sees the input fail, and the probe that is asked for does not. -/
  | refused {q : Inquiry opts.doubleCheck} {p : Probe} (hverify : opts.verifyInput = true)
      (hq : q.candidate = input) (hp : q.finding = .ok p)
      (hne : p.verdict.getD .unresolved ≠ .fails) :
      DriveEnd opts input ((input, .ok (some .fails)) :: q.calls)
        (.error (.search (.inputDoesNotFail (p.verdict.getD .unresolved))))
  /-- A later call is an error. -/
  | stopped {made : List (Candidate × Answer)} {e : OracleError} (h : EndsIn e made) :
      DriveEnd opts input ((input, .ok (some .fails)) :: made) (.error (.search (.oracle e)))
  | finished {made : List (Candidate × Answer)} {r : Result} (h : Faultless made) :
      DriveEnd opts input ((input, .ok (some .fails)) :: made) (.ok r)

section Drive

variable {o : Oracle σ} {opts : Options} {input : Candidate} {s s' : Session σ}

theorem unbroken_verify (h : verify opts o input s = (.ok (), s')) :
    ∃ made, s'.calls = s.calls ++ made ∧ Faultless made := by
  rcases verify_ok h with ⟨_, rfl⟩ | ⟨_, p, s1, hp, rfl⟩
  · exact ⟨[], (List.append_nil _).symm, faultless_nil⟩
  · obtain ⟨q, _, hq⟩ := probe_inquiry o opts.doubleCheck input s
    rw [hp] at hq
    exact ⟨q.calls, hq.calls, Inquiry.faultless_of_ok hq.finding.symm⟩

/-- The calls of a minimization that comes to nothing end in its error, unless the input was probed
    and does not fail. -/
theorem calls_of_minimize_error (hjobs : opts.jobs = 1) {err : SearchError}
    (h : minimize opts o input s = (.error err, s')) :
    (∃ e made, err = .oracle e ∧ s'.calls = s.calls ++ made ∧ EndsIn e made) ∨
      opts.verifyInput = true ∧ ∃ (q : Inquiry opts.doubleCheck) (p : Probe),
        q.candidate = input ∧ s'.calls = s.calls ++ q.calls ∧ q.finding = .ok p ∧
        p.verdict.getD .unresolved ≠ .fails ∧
        err = .inputDoesNotFail (p.verdict.getD .unresolved) := by
  have hscan : opts.scan o = scanInOrder o opts.doubleCheck := if_pos hjobs
  have hbreaks := breaks_scanInOrder o opts.doubleCheck
  unfold minimize at h
  rw [hscan] at h
  rcases minimizeWith_error h with hv | ⟨e, s1, hv, hs, rfl⟩
  · obtain ⟨hverify, q, hq, hcalls, ⟨e, he, rfl⟩ | ⟨p, hp, hne, rfl⟩⟩ := verify_error hv
    · exact Or.inl ⟨e, q.calls, rfl, hcalls, Inquiry.endsIn_of_error he⟩
    · exact Or.inr ⟨hverify, q, p, hq, hcalls, hp, hne, rfl⟩
  · obtain ⟨made, hcalls, hends⟩ := hbreaks.before (unbroken_verify hv) (hbreaks.search hs)
    exact Or.inl ⟨e, made, rfl, hcalls, hends⟩

/-- The calls of a minimization with a result are no errors. -/
theorem calls_of_minimize_ok (hjobs : opts.jobs = 1) {r : Result}
    (h : minimize opts o input s = (.ok r, s')) :
    ∃ made, s'.calls = s.calls ++ made ∧ Faultless made := by
  have hscan : opts.scan o = scanInOrder o opts.doubleCheck := if_pos hjobs
  unfold minimize at h
  rw [hscan] at h
  obtain ⟨hlinked, _⟩ :=
    (breaks_scanInOrder o opts.doubleCheck).toLinks.minimizeWith unbroken_verify h
  exact hlinked

/-- The check is one call about the input. -/
theorem checkPrecondition_cases (opts : Options) (o : Oracle σ) (input : Candidate)
    (s : Session σ) :
    (∃ s', checkPrecondition o input s = (.ok (), s') ∧
      s'.calls = s.calls ++ [(input, .ok (some .fails))]) ∨
    ∃ err s' a, checkPrecondition o input s = (.error err, s') ∧
      s'.calls = s.calls ++ [(input, a)] ∧ DriveEnd opts input [(input, a)] (.error err) := by
  rcases hask : s.ask o input with ⟨a, s1⟩
  obtain ⟨hcalls, _, _⟩ := Session.ask_spec hask
  unfold checkPrecondition
  rw [hask]
  dsimp only
  rcases a with e | _ | v
  · exact Or.inr ⟨_, s1, _, rfl, hcalls, .broken e⟩
  · exact Or.inr ⟨_, s1, _, rfl, hcalls, .passed (v := none) (by decide)⟩
  · cases v with
    | fails => exact Or.inl ⟨s1, rfl, hcalls⟩
    | passes => exact Or.inr ⟨_, s1, _, rfl, hcalls, .passed (v := some .passes) (by decide)⟩
    | unresolved =>
      exact Or.inr ⟨_, s1, _, rfl, hcalls, .passed (v := some .unresolved) (by decide)⟩

/-- The calls of a checked minimization say how it ends. -/
theorem drive_ends (o : Oracle σ) (hjobs : opts.jobs = 1) (input : Candidate) (s : Session σ) :
    ∃ made, (drive opts o input s).2.calls = s.calls ++ made ∧
      DriveEnd opts input made (drive opts o input s).1 := by
  unfold drive driveBy
  rcases checkPrecondition_cases opts o input s with
    ⟨s1, hcheck, hfirst⟩ | ⟨err, s1, a, hcheck, hcalls, hend⟩
  · have hafter : ∀ {s2 : Session σ} {made}, s2.calls = s1.calls ++ made →
        s2.calls = s.calls ++ (input, .ok (some .fails)) :: made := by
      intro s2 made h
      rw [h, hfirst, List.append_assoc]
      rfl
    rw [hcheck]
    dsimp only
    rcases hm : minimize opts o input s1 with ⟨err | r, s2⟩
    · rcases calls_of_minimize_error hjobs hm with
        ⟨e, made, rfl, hcalls, hends⟩ | ⟨hverify, q, p, hq, hcalls, hp, hne, rfl⟩
      · exact ⟨_, hafter hcalls, .stopped hends⟩
      · exact ⟨_, hafter hcalls, .refused hverify hq hp hne⟩
    · obtain ⟨made, hcalls, hfaultless⟩ := calls_of_minimize_ok hjobs hm
      exact ⟨_, (s2.calls_note _).trans (hafter hcalls), .finished hfaultless⟩
  · rw [hcheck]
    exact ⟨_, hcalls, hend⟩

end Drive

namespace DriveEnd

variable {opts : Options} {input : Candidate} {made : List (Candidate × Answer)}
  {r : Except DriveError Result}

/-- An error is the last call, and the outcome: as that of the check if it is also the first. -/
theorem after_error (h : DriveEnd opts input made r) {c : Candidate} {e : OracleError}
    {earlier later : List (Candidate × Answer)}
    (hsplit : made = earlier ++ (c, .error e) :: later) :
    later = [] ∧ r = .error (if earlier = [] then .oracle e else .search (.oracle e)) := by
  cases h with
  | broken e' =>
    obtain ⟨rfl, rfl, hlength⟩ := (endsIn_singleton input e').eq_of_mem hsplit
    obtain rfl : earlier = [] := List.length_eq_zero_iff.mp (by simpa using hlength.symm)
    exact ⟨rfl, rfl⟩
  | passed _ => exact absurd hsplit (faultless_cons faultless_nil).ne_append
  | refused _ _ hp _ =>
    exact absurd hsplit (faultless_cons (Inquiry.faultless_of_ok hp)).ne_append
  | finished hfaultless => exact absurd hsplit (faultless_cons hfaultless).ne_append
  | stopped hends =>
    have hall : EndsIn _ ((input, .ok (some .fails)) :: _) :=
      hends.prepend (faultless_cons faultless_nil)
    obtain ⟨rfl, rfl, _⟩ := hall.eq_of_mem hsplit
    have hne : earlier ≠ [] := by
      rintro rfl
      cases hsplit
    rw [if_neg hne]
    exact ⟨rfl, rfl⟩

/-- A first call that does not see the input fail is the only one. -/
theorem after_passed {v : Option Verdict} {rest : List (Candidate × Answer)}
    (h : DriveEnd opts input ((input, .ok v) :: rest) r) (hv : v ≠ some .fails) :
    rest = [] ∧ r = .error (.notFailing (v.getD .unresolved)) := by
  cases h with
  | passed _ => exact ⟨rfl, rfl⟩
  | refused => exact absurd rfl hv
  | stopped => exact absurd rfl hv
  | finished => exact absurd rfl hv

/-- Without an error in its calls, a checked minimization fails only because the input does not. -/
theorem of_faultless {err : DriveError} (h : DriveEnd opts input made (.error err))
    (hfaultless : Faultless made) :
    (∃ v, made = [(input, .ok v)] ∧ v ≠ some .fails ∧ err = .notFailing (v.getD .unresolved)) ∨
      opts.verifyInput = true ∧ ∃ (q : Inquiry opts.doubleCheck) (v : Verdict),
        q.candidate = input ∧ made = (input, .ok (some .fails)) :: q.calls ∧ ¬ q.Fails ∧
        v ≠ .fails ∧ err = .search (.inputDoesNotFail v) := by
  cases h with
  | broken e => exact absurd hfaultless (endsIn_singleton input e).not_faultless
  | passed hv =>
    refine Or.inl ⟨_, rfl, ?_, rfl⟩
    rintro rfl
    exact hv rfl
  | refused hverify hq hp hne =>
    refine Or.inr ⟨hverify, _, _, hq, rfl, ?_, hne, rfl⟩
    rintro ⟨p', hp', hfails⟩
    obtain rfl := Except.ok.inj (hp.symm.trans hp')
    have hverdict := of_decide_eq_true hfails
    rw [hverdict] at hne
    exact hne rfl
  | stopped hends =>
    exact absurd hfaultless (hends.prepend (faultless_cons faultless_nil)).not_faultless

/-- The fault is in how the program was called exactly if the first call was the only one and the
    target could be waited for, written to and read from. -/
theorem isUsage_iff {err : DriveError} (h : DriveEnd opts input made (.error err)) :
    err.isUsage = true ↔
      ∃ c a, made = [(c, a)] ∧ ∀ context cause, a ≠ .error (.io context cause) := by
  cases h with
  | broken e =>
    cases e with
    | spawn program cause => exact ⟨fun _ => ⟨_, _, rfl, nofun⟩, fun _ => rfl⟩
    | io context cause =>
      refine ⟨nofun, ?_⟩
      rintro ⟨c, a, hmade, hio⟩
      cases hmade
      exact absurd rfl (hio context cause)
  | passed _ => exact ⟨fun _ => ⟨_, _, rfl, nofun⟩, fun _ => rfl⟩
  | refused =>
    refine ⟨nofun, ?_⟩
    rintro ⟨c, a, hmade, _⟩
    cases hmade
  | stopped hends =>
    obtain ⟨earlier, c, rfl, _⟩ := hends
    refine ⟨nofun, ?_⟩
    rintro ⟨c', a, hmade, _⟩
    simp at hmade

end DriveEnd

/-- **A run fails with its last call.** Against any oracle, a checked minimization in order makes no
    call after one that is an error, and fails with that error: as an error of the check if it was
    the first call, and of the search otherwise. A first call that does not see the input fail is
    the only one. If no call is an error, a run fails only for that reason or because the input was
    to be probed again, and did not fail then. A failure counts as a fault in how the program was
    called exactly if there was one call, and no input or output of the target failed in it. -/
theorem drive_fails_with_last_call (o : Oracle σ) (opts : Options) (hjobs : opts.jobs = 1)
    (input : Candidate) (s : Session σ) :
    ∃ made, (drive opts o input s).2.calls = s.calls ++ made ∧
      (∀ earlier c e later, made = earlier ++ (c, .error e) :: later → later = [] ∧
        (drive opts o input s).1 =
          .error (if earlier = [] then .oracle e else .search (.oracle e))) ∧
      (∀ v rest, made = (input, .ok v) :: rest → v ≠ some .fails → rest = [] ∧
        (drive opts o input s).1 = .error (.notFailing (v.getD .unresolved))) ∧
      ∀ err, (drive opts o input s).1 = .error err →
        (Faultless made →
          (∃ v, made = [(input, .ok v)] ∧ v ≠ some .fails ∧
            err = .notFailing (v.getD .unresolved)) ∨
          opts.verifyInput = true ∧ ∃ (q : Inquiry opts.doubleCheck) (v : Verdict),
            q.candidate = input ∧ made = (input, .ok (some .fails)) :: q.calls ∧ ¬ q.Fails ∧
            v ≠ .fails ∧ err = .search (.inputDoesNotFail v)) ∧
        (err.isUsage = true ↔
          ∃ c a, made = [(c, a)] ∧ ∀ context cause, a ≠ .error (.io context cause)) := by
  obtain ⟨made, hcalls, hend⟩ := drive_ends o hjobs input s
  refine ⟨made, hcalls, fun earlier c e later hsplit => hend.after_error hsplit, ?_, ?_⟩
  · rintro v rest rfl hv
    exact hend.after_passed hv
  · intro err herr
    rw [herr] at hend
    exact ⟨hend.of_faultless, hend.isUsage_iff⟩

/-- The program is not there. -/
def missing : OracleError := .spawn "./t" "No such file or directory (os error 2)"

/-- The same error in the third call, and in the first: only the second run was called wrongly. -/
theorem drive_fails_with_last_call_missing :
    (∃ err, (drive {} Oracle.replaying [97, 98] (Session.start
          [.ok (some .fails), .ok (some .passes), .error missing])).1 = .error err ∧
      err = .search (.oracle missing) ∧ ¬ err.isUsage = true) ∧
    ∃ err, (drive {} Oracle.replaying [97, 98] (Session.start [.error missing])).1 = .error err ∧
      err = .oracle missing ∧ err.isUsage = true := by
  refine ⟨?_, ?_⟩
  · obtain ⟨made, hcalls, herror, _, hfailed⟩ := drive_fails_with_last_call Oracle.replaying {} rfl
      [97, 98] (Session.start [.ok (some .fails), .ok (some .passes), .error missing])
    have hmade : [([97, 98], .ok (some .fails)), ([98], .ok (some .passes))] ++
        [([97], .error missing)] = made := by
      rw [show Session.calls (Session.start _) = [] from rfl, List.nil_append] at hcalls
      rw [← hcalls]
      cbv
    obtain ⟨_, hr⟩ := herror _ _ _ _ hmade.symm
    refine ⟨_, hr, rfl, fun husage => ?_⟩
    obtain ⟨c, a, hone, _⟩ := (hfailed _ hr).2.mp husage
    rw [← hmade] at hone
    cases hone
  · obtain ⟨made, hcalls, herror, _, hfailed⟩ := drive_fails_with_last_call Oracle.replaying {} rfl
      [97, 98] (Session.start [.error missing])
    have hmade : [] ++ [([97, 98], .error missing)] = made := by
      rw [show Session.calls (Session.start _) = [] from rfl, List.nil_append] at hcalls
      rw [← hcalls]
      rfl
    obtain ⟨_, hr⟩ := herror _ _ _ _ hmade.symm
    refine ⟨_, hr, rfl, (hfailed _ hr).2.mpr ⟨_, _, hmade.symm, fun _ _ hio => ?_⟩⟩
    cases hio

end DeltaDebug
