import DeltaDebug.Proofs.Progress

/-
  What it costs to be careful. Against a deterministic oracle a second call about a candidate gets
  the answer of the first, so a search in order that confirms failures does what one does that
  takes them as they come. It makes one more call for every failure it finds, and since it adopts
  all that it finds, one for every reduction in the end.

  `Scan.Surcharged` says this of two scans, `step_surcharged` of rounds and `descend_surcharged` of
  searches; there the calls more are a fixed number, from before, and those for the reductions that
  were counted. The calls about the input itself are of the first kind (`verify_surcharged`).
-/

namespace DeltaDebug

variable {σ α : Type}

/-! ## Counts with more calls -/

/-- The same counts, with `k` calls more. -/
def Tally.more (t : Tally) (k : Nat) : Tally := { t with invocations := t.invocations + k }

theorem Tally.more_more (t : Tally) (j k : Nat) : (t.more j).more k = t.more (j + k) := by
  unfold Tally.more
  rw [Nat.add_assoc]

theorem Tally.more_record (t : Tally) (k : Nat) (p : Probe) :
    (t.more k).record p = (t.record p).more k := by
  have hswap : t.invocations + k + p.invocations = t.invocations + p.invocations + k :=
    Nat.add_right_comm _ _ _
  unfold Tally.record Tally.more
  dsimp only
  rw [hswap]
  split <;> rfl

theorem Session.more_proceed {s t : Session σ} {k : Nat} (h : t.tally = s.tally.more k)
    (st : State) (r : Step) : (t.proceed st r).tally = (s.proceed st r).tally.more k := by
  cases r with
  | done => exact h
  | refined g =>
    change t.tally.refine = _
    rw [h]
    rfl
  | reduced phase i next =>
    change t.tally.adopt phase = _
    rw [h]
    cases phase <;> rfl

/-! ## Scans -/

theorem settle_of_ne_fails (confirm : Bool) {a : Answer} (h : a ≠ .ok (some .fails)) :
    settle confirm a = settle false a := by
  rcases a with e | _ | v
  · rfl
  · rfl
  · cases v with
    | fails => exact absurd rfl h
    | passes => rfl
    | unresolved => rfl

/-- How many failures a scan found: one at most. -/
def foundBy : Except OracleError (Option α) → Nat
  | .ok (some _) => 1
  | _ => 0

/-- The second scan has the outcomes of the first, and takes `e` calls more for a failure that it
    finds. -/
def Scan.Surcharged (scan scan' : Scan σ) (e : Nat) : Prop :=
  ∀ {count : Nat} {build : Fin count → Candidate} {s s' t : Session σ} {k : Nat}
    {x : Except OracleError (Option (Fin count))}, scan count build s = (x, s') →
    t.tally = s.tally.more k →
    ∃ t', scan' count build t = (x, t') ∧ t'.tally = s'.tally.more (k + e * foundBy x)

/-- If failures are confirmed, it takes one call more. -/
theorem firstFailing_surcharged {o : Oracle σ} {f : Candidate → Answer} (hf : o.AnswersBy f)
    (confirm : Bool) {build : α → Candidate} {is : List α} {s s' t : Session σ} {k : Nat}
    {x : Except OracleError (Option α)} (h : firstFailing o false build is s = (x, s'))
    (hk : t.tally = s.tally.more k) :
    ∃ t', firstFailing o confirm build is t = (x, t') ∧
      t'.tally = s'.tally.more (k + confirm.toNat * foundBy x) := by
  induction is generalizing s t with
  | nil =>
    cases h
    exact ⟨t, rfl, hk⟩
  | cons i rest ih =>
    obtain ⟨s1, hps, hs1⟩ := probe_eq_settle hf false (build i) s
    obtain ⟨t1, hpt, ht1⟩ := probe_eq_settle hf confirm (build i) t
    have hk1 : t1.tally = s1.tally.more k := by rw [ht1, hs1, hk]
    rw [firstFailing, hps] at h
    rw [firstFailing, hpt]
    by_cases hfails : f (build i) = .ok (some .fails)
    · -- only here is there a second call, and it gets the answer of the first
      rw [hfails] at h ⊢
      cases h
      refine ⟨_, rfl, ?_⟩
      change t1.tally.more (if confirm then 2 else 1) =
        (s1.tally.more 1).more (k + confirm.toNat * 1)
      rw [hk1, Tally.more_more, Tally.more_more]
      congr 1
      cases confirm with
      | false => exact Nat.add_comm k 1
      | true => exact (Nat.add_comm 1 (k + 1)).symm
    · rw [settle_of_ne_fails confirm hfails]
      cases hp : settle false (f (build i)) with
      | error e =>
        rw [hp] at h
        cases h
        exact ⟨t1, rfl, hk1⟩
      | ok p =>
        have hnot : p.fails ≠ true := fun hpf => hfails ((fails_of_settle hp).mp hpf)
        rw [hp] at h
        dsimp only at h ⊢
        rw [if_neg hnot] at h ⊢
        refine ih h ?_
        change t1.tally.record p = _
        rw [hk1, Tally.more_record]
        rfl

theorem scanInOrder_surcharged {o : Oracle σ} {f : Candidate → Answer} (hf : o.AnswersBy f)
    (confirm : Bool) :
    (scanInOrder o false).Surcharged (scanInOrder o confirm) confirm.toNat :=
  fun h hk => firstFailing_surcharged hf confirm h hk

/-! ## Rounds and searches -/

/-- How many reductions a round came to: one at most. -/
def reducedBy : Except OracleError Step → Nat
  | .ok r => r.reduces.toNat
  | .error _ => 0

theorem State.reduces_exhausted (st : State) : st.exhausted.reduces = false := by
  rcases st.exhausted_cases with ⟨_, he⟩ | ⟨_, he⟩ <;> rw [he] <;> rfl

section Surcharged

variable {scan scan' : Scan σ} {e : Nat} (h : scan.Surcharged scan' e)

include h

theorem step_surcharged {st : State} {s s' t : Session σ} {k : Nat} {x : Except OracleError Step}
    (hstep : step scan st s = (x, s')) (hk : t.tally = s.tally.more k) :
    ∃ t', step scan' st t = (x, t') ∧ t'.tally = s'.tally.more (k + e * reducedBy x) := by
  have hbegin : (t.beginRound st).tally = (s.beginRound st).tally.more k := hk
  have hnone : reducedBy (.ok st.exhausted) = 0 := by
    change st.exhausted.reduces.toNat = 0
    rw [st.reduces_exhausted]
    rfl
  have hround := step_rounded scan st s
  rw [hstep] at hround
  generalize hx : (x, s') = y at hround
  cases hround with
  | empty he =>
    cases hx
    exact ⟨t, (Rounded.empty he).step_eq, hk⟩
  | complementError hne hc =>
    cases hx
    obtain ⟨t', hc', ht'⟩ := h hc hbegin
    exact ⟨t', (Rounded.complementError hne hc').step_eq, ht'⟩
  | complement hne hc =>
    cases hx
    obtain ⟨t', hc', ht'⟩ := h hc hbegin
    exact ⟨t', (Rounded.complement hne hc').step_eq, ht'⟩
  | whole hne hc hn =>
    cases hx
    obtain ⟨t', hc', ht'⟩ := h hc hbegin
    refine ⟨t', (Rounded.whole hne hc' hn).step_eq, ?_⟩
    rw [hnone]
    exact ht'
  | chunkError hne hc hn hs =>
    cases hx
    obtain ⟨t1, hc', ht1⟩ := h hc hbegin
    obtain ⟨t', hs', ht'⟩ := h hs ht1
    exact ⟨t', (Rounded.chunkError hne hc' hn hs').step_eq, ht'⟩
  | chunk hne hc hn hs =>
    cases hx
    obtain ⟨t1, hc', ht1⟩ := h hc hbegin
    obtain ⟨t', hs', ht'⟩ := h hs ht1
    exact ⟨t', (Rounded.chunk hne hc' hn hs').step_eq, ht'⟩
  | nothing hne hc hn hs =>
    cases hx
    obtain ⟨t1, hc', ht1⟩ := h hc hbegin
    obtain ⟨t', hs', ht'⟩ := h hs ht1
    refine ⟨t', (Rounded.nothing hne hc' hn hs').step_eq, ?_⟩
    rw [hnone]
    exact ht'

/-- A search that is `k` calls ahead, and `e` more for every reduction, stays so. -/
theorem descend_surcharged (hp : scan.KeepsProgress) {st : State} {hg : 0 < st.granularity}
    {s s' t : Session σ} {k : Nat} {x : Except OracleError State}
    (hd : descend scan st hg s = (x, s'))
    (hk : t.tally = s.tally.more (k + e * s.tally.reductions)) :
    ∃ t', descend scan' st hg t = (x, t') ∧
      t'.tally = s'.tally.more (k + e * s'.tally.reductions) := by
  have hkeeps : ∀ {st s x s'}, step scan st s = (x, s') →
      s'.tally.reductions = s.tally.reductions := by
    intro st s x s' hstep
    have hprogress := progress_step hp st s
    rw [hstep] at hprogress
    exact (Tally.counts_of_progress_eq hprogress).2
  induction st, hg, s using descend_induction scan generalizing t with
  | error st hg s err s1 hstep =>
    obtain ⟨t1, hstep', ht1⟩ := step_surcharged h hstep hk
    rw [descend_error hstep] at hd
    cases hd
    rw [hkeeps hstep]
    exact ⟨t1, descend_error hstep', ht1⟩
  | done st hg s s1 hstep =>
    obtain ⟨t1, hstep', ht1⟩ := step_surcharged h hstep hk
    rw [descend_done hstep] at hd
    cases hd
    rw [hkeeps hstep]
    exact ⟨t1, descend_done hstep', ht1⟩
  | next st hg s r s1 hstep hr ih =>
    obtain ⟨t1, hstep', ht1⟩ := step_surcharged h hstep hk
    rw [descend_next hstep hr] at hd
    rw [descend_next hstep' hr]
    refine ih hd ?_
    rw [Session.more_proceed ht1 st r, (step_counts hp hstep).2, Nat.mul_add, Nat.add_assoc]
    rfl

theorem search_surcharged (hp : scan.KeepsProgress) {input : Candidate} {s s' t : Session σ}
    {k : Nat} {x : Except OracleError Candidate} (hs : search scan input s = (x, s'))
    (hk : t.tally = s.tally.more (k + e * s.tally.reductions)) :
    ∃ t', search scan' input t = (x, t') ∧
      t'.tally = s'.tally.more (k + e * s'.tally.reductions) := by
  unfold search at hs ⊢
  split
  case isTrue hlong =>
    rw [if_pos hlong] at hs
    rcases hd : descend scan (.initial input) Nat.two_pos s with ⟨y, s1⟩
    obtain ⟨t1, hd', ht1⟩ := descend_surcharged h hp hd hk
    rw [hd] at hs
    rw [hd']
    cases y with
    | error err =>
      cases hs
      exact ⟨t1, rfl, ht1⟩
    | ok st =>
      cases hs
      exact ⟨t1, rfl, ht1⟩
  case isFalse hshort =>
    rw [if_neg hshort] at hs
    cases hs
    exact ⟨t, rfl, hk⟩

end Surcharged

/-! ## Minimizations -/

/-- The calls about the input itself, if it fails. -/
def Options.inputCalls (opts : Options) : Nat :=
  if opts.verifyInput then if opts.doubleCheck then 2 else 1 else 0

/-- The calls that careful options lead to besides those of the search. -/
def Options.extraCalls (opts : Options) (r : Result) : Nat :=
  (if opts.doubleCheck then r.complementReductions + r.subsetReductions else 0) + opts.inputCalls

theorem verify_surcharged {o : Oracle σ} {f : Candidate → Answer} (hf : o.AnswersBy f)
    (opts : Options) {input : Candidate} (hinput : f input = .ok (some .fails)) (t : Session σ) :
    ∃ t', verify opts o input t = (.ok (), t') ∧ t'.tally = t.tally.more opts.inputCalls := by
  unfold verify Options.inputCalls
  split
  · obtain ⟨t1, hp, ht1⟩ := probe_eq_settle hf opts.doubleCheck input t
    rw [hp, hinput]
    refine ⟨_, rfl, ?_⟩
    change t1.tally.more _ = _
    rw [ht1]
  · exact ⟨t, rfl, rfl⟩

theorem Session.result_of_more {s t : Session σ} {k : Nat} (h : t.tally = s.tally.more k)
    (input m : Candidate) :
    t.result input m = { s.result input m with
      invocationCount := (s.result input m).invocationCount + k } := by
  unfold Session.result
  rw [h]
  rfl

theorem Options.extraCalls_result (opts : Options) (s : Session σ) (input m : Candidate) :
    opts.inputCalls + opts.doubleCheck.toNat * s.tally.reductions =
      opts.extraCalls (s.result input m) := by
  change _ = (if opts.doubleCheck then s.tally.reductions else 0) + opts.inputCalls
  cases opts.doubleCheck <;> simp [Nat.add_comm]

/-- **To be careful costs calls and nothing else.** Against a deterministic oracle and with an
    input that fails, a search in order that confirms failures or probes its input ends with the
    same error as one that does neither, or with the same result but for the calls: one more for
    each reduction if failures are confirmed, and those about the input. -/
theorem careful_options_cost_calls (o : Oracle σ) (f : Candidate → Answer) (hf : o.AnswersBy f)
    (opts : Options) (hjobs : opts.jobs = 1) (input : Candidate)
    (hinput : f input = .ok (some .fails)) (s t : Session σ) :
    (minimize opts o input t).1 = (minimize {} o input s).1.map fun r =>
      { r with invocationCount := r.invocationCount + opts.extraCalls r } := by
  have hscan : opts.scan o = scanInOrder o opts.doubleCheck := if_pos hjobs
  have hplain : Options.scan {} o = scanInOrder o false := rfl
  obtain ⟨t1, hverify, ht1⟩ := verify_surcharged hf opts hinput { t with tally := {} }
  unfold minimize minimizeWith
  rw [hscan, hplain, hverify]
  rw [show verify {} o input { s with tally := {} } = (.ok (), { s with tally := {} }) from rfl]
  dsimp only
  rcases hsearch : search (scanInOrder o false) input { s with tally := {} } with ⟨x, s2⟩
  obtain ⟨t2, hsearch', ht2⟩ := search_surcharged (scanInOrder_surcharged hf opts.doubleCheck)
    (keepsProgress_scanInOrder o false) (k := opts.inputCalls) hsearch ht1
  rw [hsearch']
  cases x with
  | error e => rfl
  | ok m =>
    change Except.ok (t2.result input m) = Except.ok _
    rw [Session.result_of_more ht2, opts.extraCalls_result]

/-- Two reductions to be confirmed, and two calls about the input. -/
theorem careful_options_cost_calls_failsOn :
    ∃ r r0, (minimize ⟨1, true, true⟩ (Oracle.ofFunction (failsOn [99, 100]))
          [97, 99, 98, 100] (Session.start ())).1 = .ok r ∧
      (minimize {} (Oracle.ofFunction (failsOn [99, 100])) [97, 99, 98, 100]
          (Session.start ())).1 = .ok r0 ∧
      r = { r0 with invocationCount := r0.invocationCount + (2 + 2) } := by
  have hplain : (minimize {} (Oracle.ofFunction (failsOn [99, 100])) [97, 99, 98, 100]
      (Session.start ())).1 = .ok ⟨[99, 100], 4, 2, 11, 0, 2, 0, 1, 0⟩ := by
    cbv
  have hcareful := careful_options_cost_calls _ _ (Oracle.answersBy_ofFunction (failsOn [99, 100]))
    ⟨1, true, true⟩ rfl [97, 99, 98, 100] (by cbv) (Session.start ()) (Session.start ())
  rw [hplain] at hcareful
  exact ⟨_, _, hcareful, hplain, rfl⟩

end DeltaDebug
