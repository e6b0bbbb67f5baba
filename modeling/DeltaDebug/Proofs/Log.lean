import DeltaDebug.Proofs.Account

/-
  The log of a search in order and its result tell the same story. `Told` relates two stages of a
  search by the events that were logged between them: every count of the tally went up by the number
  of its events, every round that began was followed by one event that says what it came to, and the
  sizes of the reductions lead from the size at the first stage to that at the second.

  Each piece of a search is told by its events: a probe with its count (`probe_tells`), a scan
  (`firstFailing_tells`), the beginning of a round (`beginRound_tells`) and what follows it
  (`proceed_tells`). `descend_tells` puts them together by induction over the search. Only its last
  round may be left without an event of its own, and on an empty candidate there is none.
-/

namespace DeltaDebug

variable {σ : Type} {confirm : Bool}

/-! ## Reading a log -/

namespace Event

/-- The line is a warning. -/
def isWarning (e : Event) : Bool := e.level = .warn

/-- A round begins. -/
@[simp] def isRound : Event → Bool
  | .probingRound .. => true
  | _ => false

/-- A smaller candidate was adopted in that phase. -/
@[simp] def isReduction (phase : Phase) : Event → Bool
  | .reducedCandidate p .. => p = phase
  | _ => false

/-- The chunks become smaller. -/
@[simp] def isRefinement : Event → Bool
  | .refiningPartition .. => true
  | _ => false

/-- The sizes before and after a reduction. -/
def sizes? : Event → Option (Nat × Nat)
  | .reducedCandidate _ _ before after => some (before, after)
  | _ => none

end Event

/-- The sizes lead from `a` to `b`: the first reduction starts with `a`, every other one with what
    the one before it left, and the last one leaves `b`. -/
def Chained (a b : Nat) : List (Nat × Nat) → Prop
  | [] => a = b
  | (before, after) :: rest => before = a ∧ Chained after b rest

theorem Chained.append {a b c : Nat} {sizes sizes' : List (Nat × Nat)} (h : Chained a b sizes)
    (h' : Chained b c sizes') : Chained a c (sizes ++ sizes') := by
  induction sizes generalizing a with
  | nil =>
    obtain rfl : a = b := h
    exact h'
  | cons size rest ih => exact ⟨h.1, ih h.2⟩

/-! ## Stages of a search -/

/-- Where a search stands, as far as a log can tell. -/
structure Stage where
  tally : Tally
  /-- The size of the candidate. -/
  size : Nat
  /-- How many rounds have begun of which the log does not say yet what they came to. -/
  pending : Nat

/-- What the events tell is what happened between the two stages. -/
structure Told (a : Stage) (events : List Event) (b : Stage) : Prop where
  unresolved : b.tally.unresolved = a.tally.unresolved + events.countP Event.isWarning
  complements : b.tally.complementReductions =
    a.tally.complementReductions + events.countP (Event.isReduction .complement)
  subsets : b.tally.subsetReductions =
    a.tally.subsetReductions + events.countP (Event.isReduction .subset)
  refinements : b.tally.granularityIncreases =
    a.tally.granularityIncreases + events.countP Event.isRefinement
  rounds : a.pending + events.countP Event.isRound =
    events.countP (Event.isReduction .complement) + events.countP (Event.isReduction .subset) +
      events.countP Event.isRefinement + b.pending
  sizes : Chained a.size b.size (events.filterMap Event.sizes?)

theorem Told.append {a b c : Stage} {events events' : List Event} (h : Told a events b)
    (h' : Told b events' c) : Told a (events ++ events') c := by
  obtain ⟨hu, hc, hs, hr, hb, hz⟩ := h
  obtain ⟨hu', hc', hs', hr', hb', hz'⟩ := h'
  refine ⟨?_, ?_, ?_, ?_, ?_, ?_⟩
  · rw [List.countP_append, hu', hu, Nat.add_assoc]
  · rw [List.countP_append, hc', hc, Nat.add_assoc]
  · rw [List.countP_append, hs', hs, Nat.add_assoc]
  · rw [List.countP_append, hr', hr, Nat.add_assoc]
  · simp only [List.countP_append]
    omega
  · rw [List.filterMap_append]
    exact hz.append hz'

section Quiet

variable {t t' : Tally} {n k : Nat}

/-- Nothing was logged, and nothing counted that a log would tell. -/
theorem told_nothing (hunresolved : t'.unresolved = t.unresolved)
    (hprogress : t'.progress = t.progress) : Told ⟨t, n, k⟩ [] ⟨t', n, k⟩ := by
  obtain ⟨hc, hs, hg⟩ := Tally.progress_eq_iff.mp hprogress
  exact ⟨hunresolved, hc, hs, hg, by simp, rfl⟩

/-- A warning goes with a probe that is counted as unresolved. -/
theorem told_warning {e : Event} (he : e.isWarning = true)
    (hunresolved : t'.unresolved = t.unresolved + 1) (hprogress : t'.progress = t.progress) :
    Told ⟨t, n, k⟩ [e] ⟨t', n, k⟩ := by
  obtain ⟨hc, hs, hg⟩ := Tally.progress_eq_iff.mp hprogress
  cases e with
  | verdictUnresolved len => exact ⟨hunresolved, hc, hs, hg, by simp, rfl⟩
  | failureNotConfirmed len second => exact ⟨hunresolved, hc, hs, hg, by simp, rfl⟩
  | _ => cases he

/-- What happens to the target is nothing to the search. -/
theorem told_target (a : Stage) (events : List TargetEvent) :
    Told a (events.map Event.target) a := by
  induction events with
  | nil => exact told_nothing rfl rfl
  | cons e rest ih =>
    have hone : Told a [Event.target e] a := ⟨rfl, rfl, rfl, rfl, by simp, rfl⟩
    exact hone.append ih

end Quiet

/-! ## Sessions -/

namespace Session

@[simp] theorem log_note (s : Session σ) (e : Event) : (s.note e).log = s.log ++ [e] := by
  unfold note log
  simp

/-- Asking logs what happened to the target meanwhile. -/
theorem log_ask (s : Session σ) (o : Oracle σ) (c : Candidate) :
    (s.ask o c).2.log =
      s.log ++ (o.call none c s.oracle).1.events.map Event.target := by
  unfold ask log
  simp [List.filterMap_map, Function.comp_def]

/-- The log between the two sessions tells what happened, from a candidate of `n` bytes to one of
    `n'`, with `k` rounds pending before and `k'` after. -/
def Tells (s : Session σ) (n k : Nat) (s' : Session σ) (n' k' : Nat) : Prop :=
  ∃ events, s'.log = s.log ++ events ∧ Told ⟨s.tally, n, k⟩ events ⟨s'.tally, n', k'⟩

end Session

section Pieces

variable {n n1 n' k k1 k' : Nat} {s s1 s' : Session σ}

theorem Session.Tells.refl (s : Session σ) (n k : Nat) : s.Tells n k s n k :=
  ⟨[], (List.append_nil _).symm, told_target _ []⟩

theorem Session.Tells.trans (h : s.Tells n k s1 n1 k1) (h' : s1.Tells n1 k1 s' n' k') :
    s.Tells n k s' n' k' := by
  obtain ⟨events, hlog, htold⟩ := h
  obtain ⟨events', hlog', htold'⟩ := h'
  refine ⟨events ++ events', ?_, htold.append htold'⟩
  rw [hlog', hlog, List.append_assoc]

theorem ask_tells {o : Oracle σ} {c : Candidate} {a : Answer} (h : s.ask o c = (a, s'))
    (n k : Nat) : s.Tells n k s' n k := by
  have hlog := s.log_ask o c
  have htally := (Session.ask_spec h).2.2
  rw [h] at hlog
  refine ⟨_, hlog, ?_⟩
  rw [htally]
  exact told_target _ _

theorem record_tells {p : Probe} (hp : p.verdict ≠ some .unresolved) (s : Session σ) (n k : Nat) :
    s.Tells n k (s.record p) n k := by
  refine ⟨[], (List.append_nil _).symm, told_nothing ?_ (s.tally.progress_record p)⟩
  obtain ⟨invocations, verdict⟩ := p
  rcases verdict with _ | v
  · rfl
  · cases v with
    | unresolved => exact absurd rfl hp
    | fails => rfl
    | passes => rfl

theorem warning_tells {e : Event} (he : e.isWarning = true) (invocations : Nat) (s : Session σ)
    (n k : Nat) : s.Tells n k ((s.note e).record ⟨invocations, some .unresolved⟩) n k :=
  ⟨[e], s.log_note e, told_warning he rfl (s.tally.progress_record _)⟩

/-- A probe warns exactly if it is counted as unresolved. -/
theorem probe_tells {o : Oracle σ} {c : Candidate} {p : Probe}
    (h : probe o confirm c s = (.ok p, s')) (n k : Nat) : s.Tells n k (s'.record p) n k := by
  unfold probe at h
  rcases h1 : s.ask o c with ⟨a, s1⟩
  have hfirst := ask_tells h1 n k
  rw [h1] at h
  rcases a with e | _ | v
  · cases h
  · cases h
    exact hfirst.trans (record_tells (by simp [Probe.abandoned]) _ _ _)
  · cases v with
    | passes =>
      cases h
      exact hfirst.trans (record_tells (by simp) _ _ _)
    | unresolved =>
      cases h
      exact hfirst.trans (warning_tells rfl 1 _ _ _)
    | fails =>
      cases confirm with
      | false =>
        cases h
        exact hfirst.trans (record_tells (by simp) _ _ _)
      | true =>
        rcases h2 : s1.ask o c with ⟨b, s2⟩
        have hsecond := hfirst.trans (ask_tells h2 n k)
        simp only [if_true, h2] at h
        rcases b with e | _ | w
        · cases h
        · cases h
          exact hsecond.trans (record_tells (by simp [Probe.abandoned]) _ _ _)
        · cases w with
          | fails =>
            cases h
            exact hsecond.trans (record_tells (by simp) _ _ _)
          | passes =>
            cases h
            exact hsecond.trans (warning_tells rfl 2 _ _ _)
          | unresolved =>
            cases h
            exact hsecond.trans (warning_tells rfl 2 _ _ _)

theorem firstFailing_tells {α : Type} {o : Oracle σ} {build : α → Candidate} {is : List α}
    {x : Option α} (h : firstFailing o confirm build is s = (.ok x, s')) (n k : Nat) :
    s.Tells n k s' n k := by
  induction is generalizing s with
  | nil =>
    cases h
    exact .refl _ _ _
  | cons i rest ih =>
    rw [firstFailing] at h
    rcases hp : probe o confirm (build i) s with ⟨_ | p, s1⟩
    · rw [hp] at h
      cases h
    · rw [hp] at h
      dsimp only at h
      split at h
      · cases h
        exact probe_tells hp n k
      · exact (probe_tells hp n k).trans (ih h)

/-! ## Rounds -/

theorem beginRound_tells (s : Session σ) (st : State) (n k : Nat) :
    s.Tells n k (s.beginRound st) n (k + 1) := by
  refine ⟨_, s.log_note _, rfl, rfl, rfl, rfl, ?_, rfl⟩
  simp

/-- What a round comes to is logged, counted and adopted. -/
theorem proceed_tells {st : State} {r : Step} (hr : r ≠ .done) (s : Session σ) (k : Nat) :
    s.Tells st.candidate.length (k + 1) (s.proceed st r) (st.after r).candidate.length k := by
  cases r with
  | done => exact absurd rfl hr
  | refined g =>
    refine ⟨_, s.log_note _, rfl, rfl, rfl, rfl, ?_, rfl⟩
    simp [Nat.add_comm]
  | reduced phase i next =>
    refine ⟨_, s.log_note _, ?_⟩
    cases phase with
    | complement =>
      refine ⟨rfl, rfl, rfl, rfl, ?_, rfl, rfl⟩
      simp [Nat.add_comm]
    | subset =>
      refine ⟨rfl, rfl, rfl, rfl, ?_, rfl, rfl⟩
      simp [Nat.add_comm]

/-- On an empty candidate there is no round. -/
theorem step_of_nil {scan : Scan σ} {st : State} {r : Step} (hnil : st.candidate = [])
    (h : step scan st s = (.ok r, s')) : r = .done ∧ s' = s := by
  rw [(Rounded.empty hnil).step_eq] at h
  cases h
  exact ⟨rfl, rfl⟩

/-- Any other round begins with its line, and then its probes warn. -/
theorem step_tells {o : Oracle σ} {st : State} {r : Step}
    (h : step (scanInOrder o confirm) st s = (.ok r, s')) (hne : st.candidate ≠ []) (n k : Nat) :
    s.Tells n k s' n (k + 1) := by
  have hfirst : ∀ {x s1},
      scanInOrder o confirm st.parts st.complements (s.beginRound st) = (.ok x, s1) →
      s.Tells n k s1 n (k + 1) :=
    fun hc => (beginRound_tells s st n k).trans (firstFailing_tells hc _ _)
  obtain ⟨hnil, _⟩ | ⟨_, hc, _⟩ | ⟨_, s1, hc, _, hs, _⟩ | ⟨_, s1, hc, hs, _⟩ := step_ok_cases h
  · exact absurd hnil hne
  · exact hfirst hc
  · exact (hfirst hc).trans (firstFailing_tells hs _ _)
  · split at hs
    · exact (hfirst hc).trans (firstFailing_tells hs _ _)
    · rw [hs]
      exact hfirst hc

theorem descend_tells {o : Oracle σ} {st st' : State} {hg : 0 < st.granularity}
    (h : descend (scanInOrder o confirm) st hg s = (.ok st', s')) :
    s.Tells st.candidate.length 0 s' st'.candidate.length
      (if st'.candidate = [] then 0 else 1) := by
  induction st, hg, s using descend_induction (scanInOrder o confirm) with
  | error st hg s e s1 hstep =>
    rw [descend_error hstep] at h
    cases h
  | done st hg s s1 hstep =>
    rw [descend_done hstep] at h
    cases h
    by_cases hnil : st'.candidate = []
    · obtain ⟨_, rfl⟩ := step_of_nil hnil hstep
      rw [if_pos hnil]
      exact .refl _ _ _
    · rw [if_neg hnil]
      exact step_tells hstep hnil _ _
  | next st hg s r s1 hstep hr ih =>
    rw [descend_next hstep hr] at h
    have hne : st.candidate ≠ [] := fun hnil => hr (step_of_nil hnil hstep).1
    -- The round that `step` opens is closed again by what it comes to, so none is left open.
    exact ((step_tells hstep hne _ _).trans (proceed_tells hr s1 0)).trans (ih h)

end Pieces

/-! ## Results -/

/-- The result is what the events tell of it. -/
structure Result.ToldBy (r : Result) (events : List Event) : Prop where
  unresolved : events.countP Event.isWarning = r.unresolvedCount
  complements : events.countP (Event.isReduction .complement) = r.complementReductions
  subsets : events.countP (Event.isReduction .subset) = r.subsetReductions
  refinements : events.countP Event.isRefinement = r.granularityIncreases
  /-- Every round comes to a step, but for the last one, which there is only if bytes are left. -/
  rounds : 1 < r.originalSize → events.countP Event.isRound =
    r.complementReductions + r.subsetReductions + r.granularityIncreases +
      if 0 < r.minimizedSize then 1 else 0
  sizes : Chained r.originalSize r.minimizedSize (events.filterMap Event.sizes?)

theorem search_tells {o : Oracle σ} {input m : Candidate} {s s' : Session σ}
    (h : search (scanInOrder o confirm) input s = (.ok m, s')) :
    s.Tells input.length 0 s' m.length (if 1 < input.length ∧ m ≠ [] then 1 else 0) := by
  rcases search_ok h with ⟨hshort, rfl, _⟩ | ⟨hlong, ⟨st, hdescend, rfl⟩, _⟩
  · rw [search_of_short hshort] at h
    cases h
    rw [if_neg (by omega)]
    exact .refl _ _ _
  · have htells := descend_tells hdescend
    simp only [hlong, true_and, ne_eq, ite_not]
    exact htells

theorem verify_tells {opts : Options} {o : Oracle σ} {input : Candidate} {s s' : Session σ}
    (h : verify opts o input s = (.ok (), s')) (n k : Nat) : s.Tells n k s' n k := by
  rcases verify_ok h with ⟨_, rfl⟩ | ⟨_, p, s1, hp, rfl⟩
  · exact .refl _ _ _
  · exact probe_tells hp n k

theorem finished_tells (s : Session σ) (original minimized n k : Nat) :
    s.Tells n k (s.note (.finished original minimized s.tally.invocations s.tally.unresolved))
      n k := by
  refine ⟨_, s.log_note _, rfl, rfl, rfl, rfl, ?_, rfl⟩
  simp

/-- **The log and the result tell the same story.** Against any oracle, in a search in order with a
    result, there are as many warnings as probes that are counted as unresolved, and as many lines
    about reductions of each phase and about refinements as the result has of them. If the input has
    more than one byte, every one of these steps follows a round of its own, and one more round ends
    the search unless no byte is left. The sizes in the lines about reductions lead from that of the
    input to that of the result. -/
theorem log_tells_result (o : Oracle σ) (opts : Options) (hjobs : opts.jobs = 1)
    (input : Candidate) (s s' : Session σ) (r : Result)
    (h : minimize opts o input s = (.ok r, s')) :
    ∃ events, s'.log = s.log ++ events ∧ r.ToldBy events := by
  have hscan : opts.scan o = scanInOrder o opts.doubleCheck := if_pos hjobs
  unfold minimize at h
  rw [hscan] at h
  obtain ⟨s1, s2, m, hverify, hsearch, _, _⟩ := minimizeWith_ok h
  rw [minimizeWith_of_search hverify hsearch] at h
  cases h
  have htells := ((verify_tells hverify input.length 0).trans (search_tells hsearch)).trans
    (finished_tells s2 input.length m.length _ _)
  obtain ⟨events, hlog, hu, hc, hs, hg, hrounds, hsizes⟩ := htells
  simp only [Nat.zero_add] at hu hc hs hg hrounds
  refine ⟨events, hlog, hu.symm, hc.symm, hs.symm, hg.symm, fun hlong => ?_, hsizes⟩
  have hlen : 0 < m.length ↔ 1 < input.length ∧ m ≠ [] :=
    ⟨fun hpos => ⟨hlong, List.length_pos_iff.mp hpos⟩, fun hm => List.length_pos_iff.mpr hm.2⟩
  have htally : s2.tally =
      (s2.note (.finished input.length m.length s2.tally.invocations s2.tally.unresolved)).tally :=
    rfl
  simp only [Session.result, hlen]
  rw [hrounds, htally, hc, hs, hg]

/-- The answers of a search that does everything: the input fails twice; a round over halves finds
    nothing; a byte goes; then one candidate is unresolved, one failure is not confirmed, and a
    single byte fails twice. -/
def eventfulAnswers : List Answer :=
  [.ok (some .fails), .ok (some .fails), .ok (some .passes), .ok (some .passes),
    .ok (some .passes), .ok (some .passes), .ok (some .fails), .ok (some .fails),
    .ok (some .unresolved), .ok (some .fails), .ok (some .passes), .ok (some .passes),
    .ok (some .fails), .ok (some .fails)]

/-- A search with all kinds of lines: from four bytes to three, and from there to one. -/
theorem log_tells_result_replaying :
    ∃ s', minimize ⟨1, true, true⟩ Oracle.replaying [97, 98, 99, 100]
        (Session.start eventfulAnswers) = (.ok ⟨[98], 4, 1, 15, 2, 1, 1, 1, 0⟩, s') ∧
      ∃ events, s'.log = events ∧ events.countP Event.isRound = 4 ∧
        events.countP Event.isWarning = 2 ∧
        Result.ToldBy ⟨[98], 4, 1, 15, 2, 1, 1, 1, 0⟩ events := by
  have hresult : (minimize ⟨1, true, true⟩ Oracle.replaying [97, 98, 99, 100]
      (Session.start eventfulAnswers)).1 = .ok ⟨[98], 4, 1, 15, 2, 1, 1, 1, 0⟩ := by
    cbv
  have h := Prod.fst_eq_iff.mp hresult
  obtain ⟨events, hlog, htold⟩ := log_tells_result _ _ rfl _ _ _ _ h
  exact ⟨_, h, events, hlog, htold.rounds (by decide), htold.unresolved, htold⟩

end DeltaDebug
