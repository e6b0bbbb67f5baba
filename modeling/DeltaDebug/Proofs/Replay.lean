import DeltaDebug.Proofs.Account
import Mathlib.Data.List.Permutation
import Mathlib.Data.List.Sort

/-
  Searches know of their candidates only what the oracle answers. A search in order can be replayed:
  `Oracle.replaying` gives a list of answers one after the other, whatever it is asked about, and
  with the answers that a search got it leads any other candidate of the same length through the
  same rounds (`Retold`, `scanInOrder_retold`, `step_retold`, `descend_retold`).

  The bytes in the two searches differ, but they stand at the same positions: both candidates are
  images of one list `z` of positions (`Twins`), and every round cuts `z` in one way. Two searches
  with the same answers are both replayed on the second input by these answers, so they make the
  same calls and keep the same positions (`minimize_retold`, `answers_decide`).
-/

namespace DeltaDebug

variable {σ τ α β ε : Type} {confirm : Bool}

/-! ## Answers -/

/-- The answers of the oracle, in their order. -/
def Session.answers (s : Session σ) : List Answer := s.calls.map (·.2)

theorem Session.answers_of_calls {s s' : Session σ} (h : s'.calls = s.calls) :
    s'.answers = s.answers := by
  unfold Session.answers
  rw [h]

/-- The answers to the calls that were made between the two sessions. -/
def Session.answersUntil (s s' : Session σ) : List Answer := s'.answers.drop s.answers.length

theorem Session.answersUntil_eq {s s' : Session σ} {made : List Answer}
    (h : s'.answers = s.answers ++ made) : s.answersUntil s' = made := by
  unfold Session.answersUntil
  rw [h, List.drop_left]

theorem Recorded.answers {o : Oracle σ} {s s' : Session σ} {qs : List (Inquiry confirm)}
    (h : Recorded o s qs s') : s'.answers = s.answers ++ qs.flatMap Inquiry.answers := by
  unfold Session.answers
  rw [h.calls, List.map_append, List.map_flatMap]
  simp only [Inquiry.map_snd_calls]

/-! ## Replays -/

/-- What happened between the sessions `s` and `s'` can be replayed by `again`: with the answers
    that were given then, it comes to something that `P` holds of and counts the same, and it asks
    for no answer more. -/
def Retold (s s' : Session σ) (again : Session (List Answer) → β × Session (List Answer))
    (P : β → Prop) : Prop :=
  ∃ made, s'.answers = s.answers ++ made ∧
    ∀ u rest, u.tally = s.tally → u.oracle = made ++ rest →
      ∃ y u', again u = (y, u') ∧ P y ∧ u'.tally = s'.tally ∧ u'.oracle = rest

namespace Retold

variable {γ : Type} {s s1 s' : Session σ}
  {again : Session (List Answer) → β × Session (List Answer)} {P : β → Prop}

/-- Nothing happened. -/
theorem refl {y : β} (hy : P y) : Retold s s (fun u => (y, u)) P :=
  ⟨[], (List.append_nil _).symm, fun u _ ht ho => ⟨y, u, rfl, hy, ht, ho⟩⟩

/-- Before what is replayed, something was noted or counted without a call. -/
theorem comp (change : Session (List Answer) → Session (List Answer))
    (h : Retold s1 s' again P) (hanswers : s1.answers = s.answers)
    (horacle : ∀ u, (change u).oracle = u.oracle)
    (htally : ∀ u, u.tally = s.tally → (change u).tally = s1.tally) :
    Retold s s' (fun u => again (change u)) P := by
  obtain ⟨made, hmade, hagain⟩ := h
  refine ⟨made, by rw [hmade, hanswers], fun u rest ht ho => ?_⟩
  exact hagain (change u) rest (htally u ht) ((horacle u).trans ho)

/-- One thing happened after the other, and `whole` replays the first and goes on with a replay of
    the second. -/
theorem trans {whole : Session (List Answer) → γ × Session (List Answer)} {Q : γ → Prop}
    (h : Retold s s1 again P)
    (hwhole : ∀ u y u1, again u = (y, u1) → P y →
      ∃ next, whole u = next u1 ∧ Retold s1 s' next Q) :
    Retold s s' whole Q := by
  obtain ⟨made, hmade, hagain⟩ := h
  obtain ⟨y0, u0, hu0, hy0, _⟩ := hagain ⟨made ++ [], s.tally, []⟩ [] rfl rfl
  obtain ⟨_, _, made', hmade', _⟩ := hwhole _ y0 u0 hu0 hy0
  refine ⟨made ++ made', by rw [hmade', hmade, List.append_assoc], fun u rest ht ho => ?_⟩
  rw [List.append_assoc] at ho
  obtain ⟨y, u1, hu1, hy, ht1, ho1⟩ := hagain u (made' ++ rest) ht ho
  -- whatever the first part comes to in the replay, the second needs the same answers
  obtain ⟨next, heq, made'', hmade'', hnext⟩ := hwhole u y u1 hu1 hy
  obtain rfl := List.append_cancel_left (hmade'.symm.trans hmade'')
  rw [heq]
  exact hnext u1 rest ht1 ho1

/-- What the replay comes to may be put differently. -/
theorem map {whole : Session (List Answer) → γ × Session (List Answer)} {Q : γ → Prop}
    (h : Retold s s' again P)
    (hwhole : ∀ u y u', again u = (y, u') → P y → ∃ z, whole u = (z, u') ∧ Q z) :
    Retold s s' whole Q := by
  obtain ⟨made, hmade, hagain⟩ := h
  refine ⟨made, hmade, fun u rest ht ho => ?_⟩
  obtain ⟨y, u', hu', hy, ht', ho'⟩ := hagain u rest ht ho
  obtain ⟨z, hz, hQ⟩ := hwhole u y u' hu' hy
  exact ⟨z, u', hz, hQ, ht', ho'⟩

end Retold

/-! ## Probes and scans -/

theorem ask_replaying {u : Session (List Answer)} {a : Answer} {rest : List Answer}
    (h : u.oracle = a :: rest) (c : Candidate) :
    ∃ u', u.ask Oracle.replaying c = (a, u') ∧ u'.oracle = rest ∧ u'.tally = u.tally := by
  unfold Session.ask Oracle.replaying
  rw [h]
  exact ⟨_, rfl, rfl, rfl⟩

/-- With the answers of an inquiry, a probe of any candidate comes to its finding. -/
theorem probe_replaying (q : Inquiry confirm) (c : Candidate) {u : Session (List Answer)}
    {rest : List Answer} (h : u.oracle = q.answers ++ rest) :
    ∃ u', probe Oracle.replaying confirm c u = (q.finding, u') ∧ u'.oracle = rest ∧
      u'.tally = u.tally := by
  obtain ⟨d, first, second, hs⟩ := q
  obtain ⟨u1, hask, ho1, ht1⟩ := ask_replaying h c
  unfold probe
  rw [hask]
  cases second with
  | none =>
    rcases first with e | _ | v
    · exact ⟨u1, rfl, ho1, ht1⟩
    · exact ⟨u1, rfl, ho1, ht1⟩
    · cases v with
      | fails =>
        obtain rfl : confirm = false := by simpa using hs
        exact ⟨u1, rfl, ho1, ht1⟩
      | passes => exact ⟨u1, rfl, ho1, ht1⟩
      | unresolved => exact ⟨_, rfl, ho1, ht1⟩
  | some a =>
    obtain ⟨rfl, rfl⟩ := hs.mp rfl
    obtain ⟨u2, hask2, ho2, ht2⟩ := ask_replaying ho1 c
    dsimp only
    rw [if_pos rfl, hask2]
    have ht := ht2.trans ht1
    rcases a with e | _ | v
    · exact ⟨u2, rfl, ho2, ht⟩
    · exact ⟨u2, rfl, ho2, ht⟩
    · cases v with
      | fails => exact ⟨u2, rfl, ho2, ht⟩
      | passes => exact ⟨_, rfl, ho2, ht⟩
      | unresolved => exact ⟨_, rfl, ho2, ht⟩

/-- With the answers of its inquiries, a scan in order is replayed on any candidates. -/
theorem firstFailing_replaying {build : α → Candidate} {is : List α}
    {qs : List (Inquiry confirm)} {r : Except OracleError (Option α)}
    (h : Scanned build is qs r) (build' : α → Candidate) {u : Session (List Answer)}
    {rest : List Answer} (ho : u.oracle = qs.flatMap Inquiry.answers ++ rest) :
    ∃ u', firstFailing Oracle.replaying confirm build' is u = (r, u') ∧ u'.oracle = rest ∧
      u'.tally = qs.foldl (fun t q => t.enter q.finding) u.tally := by
  induction h generalizing u with
  | nil => exact ⟨u, rfl, ho, rfl⟩
  | @error i _ q e _ he =>
    rw [List.flatMap_singleton] at ho
    obtain ⟨u1, hp, ho1, ht1⟩ := probe_replaying q (build' i) ho
    rw [he] at hp
    refine ⟨u1, ?_, ho1, ?_⟩
    · rw [firstFailing, hp]
    · rw [ht1, List.foldl_cons, he]
      rfl
  | @found i _ q _ hf =>
    obtain ⟨p, hp, hpf⟩ := hf
    rw [List.flatMap_singleton] at ho
    obtain ⟨u1, hprobe, ho1, ht1⟩ := probe_replaying q (build' i) ho
    rw [hp] at hprobe
    refine ⟨u1.record p, ?_, ho1, ?_⟩
    · rw [firstFailing, hprobe]
      exact if_pos hpf
    · rw [List.foldl_cons, hp, ← ht1]
      rfl
  | @next i _ q qs _ p _ hp hpf _ ih =>
    rw [List.flatMap_cons, List.append_assoc] at ho
    obtain ⟨u1, hprobe, ho1, ht1⟩ := probe_replaying q (build' i) ho
    rw [hp] at hprobe
    have hrecord : (u1.record p).tally = u.tally.enter q.finding := by
      rw [hp, ← ht1]
      rfl
    obtain ⟨u', hrest, ho', ht'⟩ := ih (u := u1.record p) ho1
    refine ⟨u', ?_, ho', ?_⟩
    · rw [firstFailing, hprobe]
      dsimp only
      rw [hpf]
      exact hrest
    · rw [ht', hrecord]
      rfl

/-- A scan is replayed on any candidates, as many as there were. -/
theorem scanInOrder_retold {o : Oracle σ} {n n' : Nat} {build : Fin n → Candidate}
    {s s' : Session σ} {r : Except OracleError (Option (Fin n))}
    (h : scanInOrder o confirm n build s = (r, s')) (hn : n = n')
    (build' : Fin n' → Candidate) :
    Retold s s' (scanInOrder Oracle.replaying confirm n' build')
      (· = r.map (Option.map (Fin.cast hn))) := by
  subst hn
  obtain ⟨qs, hscanned, hrecorded⟩ := scanInOrder_spec h
  refine ⟨_, hrecorded.answers, fun u rest ht ho => ?_⟩
  obtain ⟨u', hu', ho', ht'⟩ := firstFailing_replaying hscanned build' ho
  refine ⟨r, u', hu', ?_, ?_, ho'⟩
  · rcases r with e | _ | i
    · rfl
    · rfl
    · rfl
  · rw [ht', hrecorded.tally, ht]

/-! ## Rounds -/

/-- The two states differ in the bytes of their candidates only: both have, for each item of `z`,
    one byte in the same place. -/
structure Twins (f g : α → UInt8) (z : List α) (st st' : State) : Prop where
  left : st.candidate = z.map f
  right : st'.candidate = z.map g
  granularity : st.granularity = st'.granularity

namespace Twins

variable {f g : α → UInt8} {z : List α} {st st' : State}

theorem length_eq (h : Twins f g z st st') : st.candidate.length = st'.candidate.length := by
  rw [h.left, h.right, List.length_map, List.length_map]

theorem parts_eq (h : Twins f g z st st') : st.parts = st'.parts := by
  unfold State.parts
  rw [h.granularity, h.length_eq]

theorem exhausted_eq (h : Twins f g z st st') : st.exhausted = st'.exhausted := by
  unfold State.exhausted
  rw [h.parts_eq, h.length_eq]

theorem ne_nil (h : Twins f g z st st') (hne : st.candidate ≠ []) : st'.candidate ≠ [] := by
  intro hnil
  have hlength := h.length_eq
  rw [hnil] at hlength
  exact hne (List.length_eq_zero_iff.mp hlength)

/-- The two candidates are cut in the same places. -/
theorem balanced_eq (h : Twins f g z st st') (i : Nat) :
    Chunk.balanced st'.candidate.length st'.parts i =
      Chunk.balanced st.candidate.length st.parts i := by
  rw [h.length_eq, h.parts_eq]

/-- The same chunk is deleted on both sides. -/
theorem complements (h : Twins f g z st st') (i : Fin st.parts) (k : Nat) :
    ∃ z', z'.Sublist z ∧
      Twins f g z' ⟨st.complements i, k⟩ ⟨st'.complements (i.cast h.parts_eq), k⟩ := by
  have hcut := h.balanced_eq i
  generalize hchunk : Chunk.balanced st.candidate.length st.parts i = chunk at hcut
  have hle : chunk.start ≤ chunk.stop := Nat.le_add_right _ _
  refine ⟨z.take chunk.start ++ z.drop chunk.stop, ?_, ?_, ?_, rfl⟩
  · have hdrop := List.drop_sublist_drop_left z hle
    have happend := hdrop.append_left (z.take chunk.start)
    rwa [List.take_append_drop] at happend
  · change (Chunk.balanced _ _ i).delete _ = _
    rw [hchunk, h.left, Chunk.delete, List.map_append, List.map_take, List.map_drop]
  · change (Chunk.balanced _ _ i).delete _ = _
    rw [hcut, h.right, Chunk.delete, List.map_append, List.map_take, List.map_drop]

/-- The same chunk is kept on both sides. -/
theorem chunks (h : Twins f g z st st') (i : Fin st.parts) (k : Nat) :
    ∃ z', z'.Sublist z ∧
      Twins f g z' ⟨st.chunks i, k⟩ ⟨st'.chunks (i.cast h.parts_eq), k⟩ := by
  have hcut := h.balanced_eq i
  generalize hchunk : Chunk.balanced st.candidate.length st.parts i = chunk at hcut
  refine ⟨(z.drop chunk.start).take chunk.len, ?_, ?_, ?_, rfl⟩
  · exact (List.take_sublist _ _).trans (List.drop_sublist _ _)
  · change (Chunk.balanced _ _ i).select _ = _
    rw [hchunk, h.left, Chunk.select, List.map_take, List.map_drop]
  · change (Chunk.balanced _ _ i).select _ = _
    rw [hcut, h.right, Chunk.select, List.map_take, List.map_drop]

end Twins

/-- The two outcomes are the same error, or values in the relation. -/
inductive Matched (R : α → β → Prop) : Except ε α → Except ε β → Prop
  | error (e : ε) : Matched R (.error e) (.error e)
  | ok {a : α} {b : β} (h : R a b) : Matched R (.ok a) (.ok b)

/-- The two rounds came to the same, but for the bytes of what they adopt. -/
inductive StepTwins (f g : α → UInt8) (z : List α) : Step → Step → Prop
  | reduced {z' : List α} {next next' : State} (phase : Phase) (i : Nat) (hz : z'.Sublist z)
      (h : Twins f g z' next next') :
      StepTwins f g z (.reduced phase i next) (.reduced phase i next')
  | refined (k : Nat) : StepTwins f g z (.refined k) (.refined k)
  | done : StepTwins f g z .done .done

theorem stepTwins_exhausted {f g : α → UInt8} {z : List α} {st st' : State}
    (h : Twins f g z st st') : StepTwins f g z st.exhausted st'.exhausted := by
  rw [h.exhausted_eq]
  rcases st'.exhausted_cases with ⟨_, he⟩ | ⟨_, he⟩
  · rw [he]
    exact .refined _
  · rw [he]
    exact .done

section Step

variable {o : Oracle σ} {f g : α → UInt8} {z : List α} {st st' : State} {s s1 s' : Session σ}

theorem complements_retold {r : Except OracleError (Option (Fin st.parts))}
    (ht : Twins f g z st st')
    (h : scanInOrder o confirm st.parts st.complements (s.beginRound st) = (r, s')) :
    Retold s s' (fun u => scanInOrder Oracle.replaying confirm st'.parts st'.complements
        (u.beginRound st')) (· = r.map (Option.map (Fin.cast ht.parts_eq))) := by
  have hanswers : (s.beginRound st).answers = s.answers :=
    Session.answers_of_calls (s.calls_note _)
  exact (scanInOrder_retold h ht.parts_eq st'.complements).comp
    (fun u => u.beginRound st') hanswers (fun _ => rfl) fun _ h => h

/-- If the first scan finds nothing, the second is replayed after it. -/
theorem chunks_retold (ht : Twins f g z st st') (hne : st.candidate ≠ []) (hn : 1 < st.parts)
    (hc : scanInOrder o confirm st.parts st.complements (s.beginRound st) = (.ok none, s1))
    {r : Except OracleError (Option (Fin st.parts))}
    (hs : scanInOrder o confirm st.parts st.chunks s1 = (r, s')) :
    Retold s s' (fun u => step (scanInOrder Oracle.replaying confirm) st' u) fun y => y =
      match r.map (Option.map (Fin.cast ht.parts_eq)) with
      | .error e => .error e
      | .ok (some i) => .ok (.reduced .subset i ⟨st'.chunks i, 2⟩)
      | .ok none => .ok st'.exhausted := by
  have hn' : 1 < st'.parts := ht.parts_eq ▸ hn
  refine (complements_retold ht hc).trans fun u y u1 hu hy =>
    ⟨tryChunks (scanInOrder Oracle.replaying confirm) st', ?_, ?_⟩
  · rw [step_of_ne_nil u (ht.ne_nil hne), hu, hy]
    rfl
  · refine (scanInOrder_retold hs ht.parts_eq st'.chunks).map fun u y u' hu hy => ?_
    rw [tryChunks_of_one_lt u hn', hu, hy]
    rcases r with e | _ | i
    · exact ⟨_, rfl, rfl⟩
    · exact ⟨_, rfl, rfl⟩
    · exact ⟨_, rfl, rfl⟩

/-- A round is replayed on a twin of its state. -/
theorem step_retold (ht : Twins f g z st st') {r : Except OracleError Step}
    (h : step (scanInOrder o confirm) st s = (r, s')) :
    Retold s s' (step (scanInOrder Oracle.replaying confirm) st')
      (Matched (StepTwins f g z) r) := by
  have hround := step_rounded (scanInOrder o confirm) st s
  rw [h] at hround
  generalize hx : (r, s') = x at hround
  cases hround with
  | empty hnil =>
    cases hx
    have hnil' : st'.candidate = [] := by
      apply List.length_eq_zero_iff.mp
      rw [← ht.length_eq, hnil]
      rfl
    have hagain : step (scanInOrder Oracle.replaying confirm) st' = fun u => (.ok .done, u) :=
      funext fun u => (Rounded.empty hnil').step_eq
    rw [hagain]
    exact .refl (.ok .done)
  | complementError hne hc =>
    cases hx
    refine (complements_retold ht hc).map fun u y u' hu hy => ?_
    subst hy
    exact ⟨_, (Rounded.complementError (ht.ne_nil hne) hu).step_eq, .error _⟩
  | complement hne hc =>
    cases hx
    refine (complements_retold ht hc).map fun u y u' hu hy => ?_
    subst hy
    have hk : max (st'.parts - 1) 2 = max (st.parts - 1) 2 := by rw [ht.parts_eq]
    obtain ⟨z', hz, htwins⟩ := ht.complements _ (max (st.parts - 1) 2)
    refine ⟨_, (Rounded.complement (ht.ne_nil hne) hu).step_eq, ?_⟩
    rw [hk]
    exact .ok (.reduced .complement _ hz htwins)
  | whole hne hc hn =>
    cases hx
    refine (complements_retold ht hc).map fun u y u' hu hy => ?_
    subst hy
    refine ⟨_, (Rounded.whole (ht.ne_nil hne) hu ?_).step_eq, .ok (stepTwins_exhausted ht)⟩
    rw [← ht.parts_eq]
    exact hn
  | chunkError hne hc hn hs =>
    cases hx
    refine (chunks_retold ht hne hn hc hs).map fun u y u' hu hy => ⟨y, hu, ?_⟩
    subst hy
    exact .error _
  | chunk hne hc hn hs =>
    cases hx
    refine (chunks_retold ht hne hn hc hs).map fun u y u' hu hy => ⟨y, hu, ?_⟩
    subst hy
    obtain ⟨z', hz, htwins⟩ := ht.chunks _ 2
    exact .ok (.reduced .subset _ hz htwins)
  | nothing hne hc hn hs =>
    cases hx
    refine (chunks_retold ht hne hn hc hs).map fun u y u' hu hy => ⟨y, hu, ?_⟩
    subst hy
    exact .ok (stepTwins_exhausted ht)

end Step

/-! ## Searches -/

/-- What is counted between two rounds is counted in the replay. -/
theorem Retold.comp_proceed {f g : α → UInt8} {z : List α} {r r' : Step}
    (hr : StepTwins f g z r r') {s s' : Session σ} (st st' : State)
    {again : Session (List Answer) → β × Session (List Answer)} {P : β → Prop}
    (h : Retold (s.proceed st r) s' again P) :
    Retold s s' (fun u => again (u.proceed st' r')) P := by
  have hanswers : (s.proceed st r).answers = s.answers :=
    Session.answers_of_calls (s.calls_proceed st r)
  refine h.comp _ hanswers ?_ ?_
  · intro u
    cases hr <;> rfl
  · intro u hu
    cases hr with
    | done => exact hu
    | refined k => exact congrArg Tally.refine hu
    | reduced phase i _ _ => exact congrArg (·.adopt phase) hu

theorem StepTwins.ne_done {f g : α → UInt8} {z : List α} {r r' : Step}
    (h : StepTwins f g z r r') (hr : r ≠ .done) : r' ≠ .done := by
  cases h with
  | reduced => nofun
  | refined => nofun
  | done => exact absurd rfl hr

/-- The two states after a round are twins again. -/
theorem Twins.after {f g : α → UInt8} {z : List α} {st st' : State} (ht : Twins f g z st st')
    {r r' : Step} (hr : StepTwins f g z r r') :
    ∃ z', z'.Sublist z ∧ Twins f g z' (st.after r) (st'.after r') := by
  cases hr with
  | reduced phase i hz h => exact ⟨_, hz, h⟩
  | refined k => exact ⟨z, List.Sublist.refl z, ht.left, ht.right, rfl⟩
  | done => exact ⟨z, List.Sublist.refl z, ht⟩

/-- A search is replayed on a twin of the state that it starts from. -/
theorem descend_retold {o : Oracle σ} {f g : α → UInt8} {z : List α} {st st' : State}
    {hg : 0 < st.granularity} {s s' : Session σ} {r : Except OracleError State}
    (ht : Twins f g z st st') (hg' : 0 < st'.granularity)
    (h : descend (scanInOrder o confirm) st hg s = (r, s')) :
    Retold s s' (descend (scanInOrder Oracle.replaying confirm) st' hg')
      (Matched (fun x y => ∃ z', z'.Sublist z ∧ Twins f g z' x y) r) := by
  induction st, hg, s using descend_induction (scanInOrder o confirm) generalizing z st' with
  | error st hg s e s1 hstep =>
    rw [descend_error hstep] at h
    cases h
    refine (step_retold ht hstep).map fun u y u' hu hy => ?_
    cases hy with
    | error e => exact ⟨_, descend_error hu, .error e⟩
  | done st hg s s1 hstep =>
    rw [descend_done hstep] at h
    cases h
    refine (step_retold ht hstep).map fun u y u' hu hy => ?_
    cases hy with
    | ok hy =>
      cases hy with
      | done => exact ⟨_, descend_done hu, .ok ⟨z, List.Sublist.refl z, ht⟩⟩
  | next st hg s r1 s1 hstep hr ih =>
    rw [descend_next hstep hr] at h
    refine (step_retold ht hstep).trans fun u y u1 hu hy => ?_
    cases hy with
    | @ok _ r1' htwins =>
      obtain ⟨z1, hz1, ht1⟩ := ht.after htwins
      have hg1 := step_granularity_pos hu hg'
      refine ⟨_, descend_next hu (htwins.ne_done hr), Retold.comp_proceed htwins st st' ?_⟩
      refine (ih ht1 hg1 h).map fun u y u' hu hy => ⟨y, hu, ?_⟩
      cases hy with
      | error e => exact .error e
      | ok hz =>
        obtain ⟨z', hz', htwins'⟩ := hz
        exact .ok ⟨z', hz'.trans hz1, htwins'⟩

/-- Both are made of bytes at the same positions. -/
def SamePositions (f g : α → UInt8) (z : List α) (c d : Candidate) : Prop :=
  ∃ z' : List α, z'.Sublist z ∧ c = z'.map f ∧ d = z'.map g

section Minimize

variable {o : Oracle σ} {f g : α → UInt8} {z : List α} {s s' : Session σ} {opts : Options}

theorem search_retold {r : Except OracleError Candidate}
    (h : search (scanInOrder o confirm) (z.map f) s = (r, s')) :
    Retold s s' (search (scanInOrder Oracle.replaying confirm) (z.map g))
      (Matched (SamePositions f g z) r) := by
  have hlength : (z.map f).length = (z.map g).length := by
    rw [List.length_map, List.length_map]
  have hinitial : Twins f g z (.initial (z.map f)) (.initial (z.map g)) := ⟨rfl, rfl, rfl⟩
  unfold search at h ⊢
  split at h
  case isTrue hlong =>
    rw [hlength] at hlong
    simp only [if_pos hlong]
    rcases hd : descend (scanInOrder o confirm) (.initial (z.map f)) Nat.two_pos s with ⟨x, s1⟩
    rw [hd] at h
    obtain rfl : s1 = s' := by cases x <;> exact congrArg Prod.snd h
    refine (descend_retold hinitial Nat.two_pos hd).map fun u y u' hu hy => ?_
    rw [hu]
    cases hy with
    | error e =>
      cases h
      exact ⟨_, rfl, .error e⟩
    | ok hz =>
      obtain ⟨z', hz', htwins⟩ := hz
      cases h
      exact ⟨_, rfl, .ok ⟨z', hz', htwins.left, htwins.right⟩⟩
  case isFalse hshort =>
    rw [hlength] at hshort
    simp only [if_neg hshort]
    cases h
    exact .refl (.ok ⟨z, List.Sublist.refl z, rfl, rfl⟩)

theorem probe_retold {c : Candidate} {r : Except OracleError Probe}
    (h : probe o confirm c s = (r, s')) (d : Candidate) :
    Retold s s' (probe Oracle.replaying confirm d) (· = r) := by
  obtain ⟨q, _, hq⟩ := probe_inquiry o confirm c s
  rw [h] at hq
  have hanswers : s'.answers = s.answers ++ q.answers := by
    unfold Session.answers
    rw [hq.calls, List.map_append, q.map_snd_calls]
  refine ⟨q.answers, hanswers, fun u rest ht ho => ?_⟩
  obtain ⟨u', hu', ho', ht'⟩ := probe_replaying q d ho
  exact ⟨_, u', hu', hq.finding.symm, ht'.trans (ht.trans hq.tally.symm), ho'⟩

/-- A probe is counted in the replay. -/
theorem record_retold {c : Candidate} {p : Probe} (h : probe o confirm c s = (.ok p, s'))
    (d : Candidate) {whole : Session (List Answer) → β × Session (List Answer)} {y : β}
    (hwhole : ∀ u u', probe Oracle.replaying confirm d u = (.ok p, u') →
      whole u = (y, u'.record p)) :
    Retold s (s'.record p) whole (· = y) := by
  refine (probe_retold h d).trans fun u r u' hu hr => ⟨fun u => (y, u.record p), ?_, ?_⟩
  · subst hr
    exact hwhole u u' hu
  · have hcounted : Retold (s'.record p) (s'.record p) (fun u => (y, u)) (· = y) := .refl rfl
    exact hcounted.comp (fun u => u.record p) rfl (fun _ => rfl)
      fun u hu => congrArg (·.record p) hu

/-- A probe of the input is replayed on any other. -/
theorem verify_retold {c : Candidate} {r : Except SearchError Unit}
    (h : verify opts o c s = (r, s')) (d : Candidate) :
    Retold s s' (verify opts Oracle.replaying d) (· = r) := by
  unfold verify at h ⊢
  split at h
  case isFalse hno =>
    cases h
    simp only [if_neg hno]
    exact .refl rfl
  case isTrue hyes =>
    simp only [if_pos hyes]
    rcases hp : probe o opts.doubleCheck c s with ⟨e | p, s1⟩
    · rw [hp] at h
      cases h
      refine (probe_retold hp d).map fun u y u' hu hy => ?_
      rw [hu, hy]
      exact ⟨_, rfl, rfl⟩
    · rw [hp] at h
      dsimp only at h
      split at h
      case isTrue hfails =>
        cases h
        refine record_retold hp d fun u u' hu => ?_
        rw [hu]
        exact if_pos hfails
      case isFalse hnot =>
        cases h
        refine record_retold hp d fun u u' hu => ?_
        rw [hu]
        exact if_neg hnot

/-- The two results differ in their bytes only, and these come from the same positions. -/
def ResultTwins (f g : α → UInt8) (z : List α) (r r' : Result) : Prop :=
  SamePositions f g z r.minimized r'.minimized ∧ r' = { r with minimized := r'.minimized }

/-- The result that is read off at the end. -/
theorem result_retold {m m' : Candidate} (h : SamePositions f g z m m') (s : Session σ)
    (e : Event) (e' : Session (List Answer) → Event) :
    Retold s (s.note e) (fun u => (.ok (u.result (z.map g) m'), u.note (e' u)))
      (Matched (ResultTwins f g z)
        (.ok (s.result (z.map f) m) : Except SearchError Result)) := by
  have hanswers : (s.note e).answers = s.answers := Session.answers_of_calls (s.calls_note e)
  refine ⟨[], by rw [hanswers, List.append_nil], fun u rest ht ho => ?_⟩
  refine ⟨_, _, rfl, .ok ⟨h, ?_⟩, ht, ho⟩
  obtain ⟨z', _, rfl, rfl⟩ := h
  unfold Session.result
  rw [ht]
  simp only [List.length_map]

/-- What is left of a minimization when the input has been probed. -/
def conclude (scan : Scan σ) (input : Candidate) (s : Session σ) :
    Except SearchError Result × Session σ :=
  match search scan input s with
  | (.error e, s) => (.error (.oracle e), s)
  | (.ok m, s) => (.ok (s.result input m),
      s.note (.finished input.length m.length s.tally.invocations s.tally.unresolved))

theorem minimizeWith_of_verify {scan : Scan σ} {input : Candidate}
    (h : verify opts o input s = (.ok (), s')) :
    minimizeWith scan opts o input s = conclude scan input s' := by
  rcases hsearch : search scan input s' with ⟨e | m, s1⟩
  · simp only [minimizeWith, conclude, h, hsearch]
  · simp only [minimizeWith, conclude, h, hsearch]

theorem conclude_retold {r : Except SearchError Result}
    (h : conclude (scanInOrder o confirm) (z.map f) s = (r, s')) :
    Retold s s' (conclude (scanInOrder Oracle.replaying confirm) (z.map g))
      (Matched (ResultTwins f g z) r) := by
  unfold conclude at h ⊢
  rcases hs : search (scanInOrder o confirm) (z.map f) s with ⟨e | m, s1⟩
  · rw [hs] at h
    cases h
    refine (search_retold (g := g) hs).map fun u y u' hu hy => ?_
    cases hy with
    | error e =>
      rw [hu]
      exact ⟨_, rfl, .error _⟩
  · rw [hs] at h
    cases h
    refine (search_retold (g := g) hs).trans fun u y u' hu hy => ?_
    cases hy with
    | @ok _ m' hm =>
      have hresult := result_retold hm s1 (.finished (z.map f).length m.length
        s1.tally.invocations s1.tally.unresolved) fun u => .finished (z.map g).length m'.length
          u.tally.invocations u.tally.unresolved
      rw [hu]
      exact ⟨_, rfl, hresult⟩

/-- A minimization is replayed on any other bytes at the same positions. -/
theorem minimizeWith_retold {r : Except SearchError Result}
    (h : minimizeWith (scanInOrder o confirm) opts o (z.map f) s = (r, s')) :
    Retold s s'
      (minimizeWith (scanInOrder Oracle.replaying confirm) opts Oracle.replaying (z.map g))
      (Matched (ResultTwins f g z) r) := by
  rcases hv : verify opts o (z.map f) s with ⟨e | _, s1⟩
  · unfold minimizeWith at h ⊢
    rw [hv] at h
    cases h
    refine (verify_retold hv (z.map g)).map fun u y u' hu hy => ?_
    rw [hu, hy]
    exact ⟨_, rfl, .error e⟩
  · rw [minimizeWith_of_verify hv] at h
    refine (verify_retold hv (z.map g)).trans fun u y u1 hu hy => ?_
    subst hy
    exact ⟨_, minimizeWith_of_verify hu, conclude_retold h⟩

end Minimize

/-! ## Two minimizations -/

/-- Lists that agree wherever both have an item are beginnings of one list. -/
theorem exists_append_eq {as bs : List β}
    (h : ∀ (k : Nat) (a b : β), as[k]? = some a → bs[k]? = some b → a = b) :
    ∃ as' bs', as ++ as' = bs ++ bs' := by
  induction as generalizing bs with
  | nil => exact ⟨bs, [], by simp⟩
  | cons a as ih =>
    cases bs with
    | nil => exact ⟨[], a :: as, by simp⟩
    | cons b bs =>
      obtain rfl : a = b := h 0 a b rfl rfl
      obtain ⟨as', bs', heq⟩ := ih fun k a' b' ha hb => h (k + 1) a' b' ha hb
      exact ⟨as', bs', congrArg (a :: ·) heq⟩

theorem eq_map_finRange (c : Candidate) {n : Nat} (h : n = c.length) :
    (List.finRange n).map (fun p => c.get (p.cast h)) = c := by
  subst h
  exact List.map_get_finRange c

/-- A minimization in order is replayed by its answers on every input of the same length. -/
theorem minimize_retold {o : Oracle σ} {opts : Options} (hjobs : opts.jobs = 1) {x y : Candidate}
    (hlen : x.length = y.length) {s s' : Session σ} {r : Except SearchError Result}
    (h : minimize opts o x s = (r, s')) :
    Retold { s with tally := {} } s'
      (minimizeWith (scanInOrder Oracle.replaying opts.doubleCheck) opts Oracle.replaying y)
      (Matched (ResultTwins x.get (fun p => y.get (p.cast hlen)) (List.finRange x.length)) r) := by
  have hscan : opts.scan o = scanInOrder o opts.doubleCheck := if_pos hjobs
  have hx := List.map_get_finRange x
  have hy := eq_map_finRange y hlen
  unfold minimize at h
  rw [hscan, ← hx] at h
  have hretold := minimizeWith_retold (g := fun p => y.get (p.cast hlen)) h
  rwa [hy] at hretold

/-- **Answers are all that a search knows.** If two inputs have the same length, and in two
    minimizations in order, with the same options and any oracles, the first calls get the same
    answer, the second calls, and so on, then both make the same number of calls and end with the
    same error, or with results that differ in the bytes only; and these are, in both, the bytes
    at the same positions, in their order. -/
theorem answers_decide (o : Oracle σ) (o' : Oracle τ) (opts : Options) (hjobs : opts.jobs = 1)
    (x y : Candidate) (hlen : x.length = y.length) (s : Session σ) (t : Session τ)
    (hsame : ∀ (k : Nat) (a b : Answer), (s.answersUntil (minimize opts o x s).2)[k]? = some a →
      (t.answersUntil (minimize opts o' y t).2)[k]? = some b → a = b) :
    (s.answersUntil (minimize opts o x s).2).length =
        (t.answersUntil (minimize opts o' y t).2).length ∧
      ((∃ e, (minimize opts o x s).1 = .error e ∧ (minimize opts o' y t).1 = .error e) ∨
        ∃ (r r' : Result) (places : List (Fin x.length)),
          (minimize opts o x s).1 = .ok r ∧ (minimize opts o' y t).1 = .ok r' ∧
          places.Pairwise (· < ·) ∧ r.minimized = places.map x.get ∧
          r'.minimized = places.map (fun p => y.get (p.cast hlen)) ∧
          r' = { r with minimized := r'.minimized }) := by
  rcases hmx : minimize opts o x s with ⟨rx, sx⟩
  rcases hmy : minimize opts o' y t with ⟨ry, ty⟩
  rw [hmx, hmy] at hsame
  obtain ⟨made, hmade, hagain⟩ := minimize_retold hjobs hlen hmx
  obtain ⟨made', hmade', hagain'⟩ := minimize_retold hjobs rfl hmy
  have huntil : s.answersUntil sx = made := Session.answersUntil_eq hmade
  have huntil' : t.answersUntil ty = made' := Session.answersUntil_eq hmade'
  rw [huntil, huntil'] at hsame
  obtain ⟨rest, rest', hall⟩ := exists_append_eq hsame
  -- one replay, on the second input, retells both
  obtain ⟨z, u, hu, hz, _, ho⟩ := hagain (Session.start (made ++ rest)) rest rfl rfl
  obtain ⟨z', u', hu', hz', _, ho'⟩ := hagain' (Session.start (made ++ rest)) rest' rfl hall
  rw [hu] at hu'
  obtain ⟨rfl, rfl⟩ := Prod.mk.inj hu'
  obtain rfl : rest = rest' := ho.symm.trans ho'
  obtain rfl : made = made' := List.append_cancel_right hall
  refine ⟨by rw [huntil, huntil'], ?_⟩
  cases hz with
  | error e =>
    cases hz' with
    | error e => exact Or.inl ⟨e, rfl, rfl⟩
  | @ok r r1 h =>
    cases hz' with
    | @ok r' _ h' =>
      obtain ⟨⟨places, hplaces, hr, hr1⟩, heq⟩ := h
      obtain ⟨⟨places', _, hr', hr1'⟩, heq'⟩ := h'
      have hsorted : places.Pairwise (· < ·) := (List.sortedLT_finRange _).pairwise.sublist hplaces
      have hbytes : r'.minimized = r1.minimized := by rw [hr', hr1']; rfl
      refine Or.inr ⟨r, r', places, rfl, rfl, hsorted, hr, hbytes.trans hr1, ?_⟩
      -- the replay differs from both results in its bytes only
      rw [heq, ← hbytes] at heq'
      rw [heq']

/-- Two targets that fail on the second and the fourth byte of their inputs: both bytes are kept
    on either side. -/
theorem answers_decide_failsOn :
    ∃ (r r' : Result) (places : List (Fin 4)),
      (minimize ⟨1, true, true⟩ (Oracle.ofFunction (failsOn [99, 100])) [97, 99, 98, 100]
        (Session.start ())).1 = .ok r ∧
      (minimize ⟨1, true, true⟩ (Oracle.ofFunction (failsOn [2, 4])) [1, 2, 3, 4]
        (Session.start ())).1 = .ok r' ∧
      r.minimized = places.map (List.get [97, 99, 98, 100]) ∧
      r'.minimized = places.map (List.get [1, 2, 3, 4]) ∧
      r.invocationCount = r'.invocationCount ∧ r.minimized = [99, 100] := by
  have hmx : (minimize ⟨1, true, true⟩ (Oracle.ofFunction (failsOn [99, 100])) [97, 99, 98, 100]
      (Session.start ())).1.toOption.map Result.minimized = some [99, 100] := by cbv
  have hequal : (Session.start ()).answersUntil (minimize ⟨1, true, true⟩
      (Oracle.ofFunction (failsOn [99, 100])) [97, 99, 98, 100] (Session.start ())).2 =
      (Session.start ()).answersUntil (minimize ⟨1, true, true⟩
        (Oracle.ofFunction (failsOn [2, 4])) [1, 2, 3, 4] (Session.start ())).2 := by cbv
  obtain ⟨_, ⟨e, he, _⟩ | ⟨r, r', places, hr, hr', _, hx, hy, hrest⟩⟩ :=
    answers_decide (Oracle.ofFunction (failsOn [99, 100])) (Oracle.ofFunction (failsOn [2, 4]))
      ⟨1, true, true⟩ rfl [97, 99, 98, 100] [1, 2, 3, 4] rfl (Session.start ()) (Session.start ())
      fun k a b ha hb => by
        rw [hequal] at ha
        exact Option.some.inj (ha.symm.trans hb)
  · rw [he] at hmx
    cases hmx
  · refine ⟨r, r', places, hr, hr', hx, hy, ?_, ?_⟩
    · rw [hrest]
    · rw [hr] at hmx
      exact Option.some.inj hmx

end DeltaDebug
