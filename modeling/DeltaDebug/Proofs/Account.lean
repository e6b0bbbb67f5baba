import DeltaDebug.Drive
import DeltaDebug.Proofs.Run
import Mathlib.Data.Prod.Basic

/-
  The counts of a search in order are exact. What an inquiry adds to them can be read off its calls
  (`Inquiry.counts_of_ok`): the calls that came to a verdict, those that were abandoned, and whether
  the candidate was left unresolved. A scan in order makes inquiries and counts each of them once,
  and nothing else in a search makes a call or touches these counts, so the same holds of a whole
  search (`links_accounted`), against any oracle.

  The calls alone say which inquiries were made (`flatMap_calls_injective`): a second call about a
  candidate follows a first that saw it fail, if failures have to be confirmed, and no other.
-/

namespace DeltaDebug

variable {σ : Type} {confirm : Bool}

/-! ## Calls -/

/-- The call came to a verdict. -/
def Answer.completed : Answer → Bool
  | .ok (some _) => true
  | _ => false

/-- The call was abandoned. -/
def Answer.abandoned : Answer → Bool
  | .ok none => true
  | _ => false

/-- How many of the calls came to a verdict. -/
def completedIn (calls : List (Candidate × Answer)) : Nat :=
  calls.countP fun call => call.2.completed

/-- How many of the calls were abandoned. -/
def abandonedIn (calls : List (Candidate × Answer)) : Nat :=
  calls.countP fun call => call.2.abandoned

theorem completedIn_append (calls calls' : List (Candidate × Answer)) :
    completedIn (calls ++ calls') = completedIn calls + completedIn calls' :=
  List.countP_append

theorem abandonedIn_append (calls calls' : List (Candidate × Answer)) :
    abandonedIn (calls ++ calls') = abandonedIn calls + abandonedIn calls' :=
  List.countP_append

/-! ## Inquiries -/

namespace Inquiry

/-- The first call left the candidate unresolved. -/
def unresolvedAtOnce (q : Inquiry confirm) : Bool :=
  match q.first with
  | .ok (some .unresolved) => true
  | _ => false

/-- The first call saw the candidate fail, and the second came to another verdict. -/
def unconfirmed (q : Inquiry confirm) : Bool :=
  match q.first, q.second with
  | .ok (some .fails), some (.ok (some .passes)) => true
  | .ok (some .fails), some (.ok (some .unresolved)) => true
  | _, _ => false

/-- What a probe counts, if the inquiry comes to one. -/
theorem counts_of_ok {q : Inquiry confirm} {p : Probe} (h : q.finding = .ok p) (t : Tally) :
    (t.record p).invocations = t.invocations + completedIn q.calls ∧
      (t.record p).cancelled = t.cancelled + abandonedIn q.calls ∧
      (t.record p).unresolved =
        t.unresolved + (q.unresolvedAtOnce.toNat + q.unconfirmed.toNat) ∧
      q.calls.length = completedIn q.calls + abandonedIn q.calls := by
  obtain ⟨c, first, second, hs⟩ := q
  cases second with
  | none =>
    rcases first with e | _ | v
    · cases h
    · cases h
      exact ⟨rfl, rfl, rfl, rfl⟩
    · cases v <;> cases h <;> exact ⟨rfl, rfl, rfl, rfl⟩
  | some a =>
    obtain ⟨rfl, rfl⟩ := hs.mp rfl
    rcases a with e | _ | v
    · cases h
    · cases h
      exact ⟨rfl, rfl, rfl, rfl⟩
    · cases v <;> cases h <;> exact ⟨rfl, rfl, rfl, rfl⟩

/-- The first calls of two records tell what inquiry they start with, and what is left then. -/
theorem append_calls_inj {q q' : Inquiry confirm} {rest rest' : List (Candidate × Answer)}
    (h : q.calls ++ rest = q'.calls ++ rest') : q = q' ∧ rest = rest' := by
  obtain ⟨c, first, second, hs⟩ := q
  obtain ⟨c', first', second', hs'⟩ := q'
  obtain ⟨hhead, htail⟩ := List.cons.inj h
  obtain ⟨rfl, rfl⟩ := Prod.mk.inj hhead
  cases second with
  | none =>
    cases second' with
    | none => exact ⟨rfl, htail⟩
    | some a' => exact absurd (hs.mpr (hs'.mp rfl)) (by simp)
  | some a =>
    cases second' with
    | none => exact absurd (hs'.mpr (hs.mp rfl)) (by simp)
    | some a' =>
      obtain ⟨hsecond, hrest⟩ := List.cons.inj htail
      obtain ⟨_, rfl⟩ := Prod.mk.inj hsecond
      exact ⟨rfl, hrest⟩

/-- The calls of inquiries, one after the other, tell what the inquiries are. -/
theorem flatMap_calls_injective {qs qs' : List (Inquiry confirm)}
    (h : qs.flatMap calls = qs'.flatMap calls) : qs = qs' := by
  induction qs generalizing qs' with
  | nil =>
    cases qs' with
    | nil => rfl
    | cons q' qs' => cases h
  | cons q qs ih =>
    cases qs' with
    | nil => cases h
    | cons q' qs' =>
      rw [List.flatMap_cons, List.flatMap_cons] at h
      obtain ⟨rfl, hrest⟩ := append_calls_inj h
      rw [ih hrest]

end Inquiry

/-! ## Sessions -/

/-- Between the two sessions the inquiries were made, and each was counted once. None of them ended
    with an error. -/
structure Accounted (s : Session σ) (qs : List (Inquiry confirm)) (s' : Session σ) : Prop where
  calls : s'.calls = s.calls ++ qs.flatMap Inquiry.calls
  invocations :
    s'.tally.invocations = s.tally.invocations + completedIn (qs.flatMap Inquiry.calls)
  cancelled : s'.tally.cancelled = s.tally.cancelled + abandonedIn (qs.flatMap Inquiry.calls)
  unresolved : s'.tally.unresolved = s.tally.unresolved +
    (qs.countP Inquiry.unresolvedAtOnce + qs.countP Inquiry.unconfirmed)
  findings : ∀ q ∈ qs, ∃ p, q.finding = .ok p

namespace Accounted

variable {s s1 s' : Session σ}

/-- Nothing was asked and nothing counted that has to do with calls. -/
theorem nil (hcalls : s'.calls = s.calls)
    (hinvocations : s'.tally.invocations = s.tally.invocations)
    (hcancelled : s'.tally.cancelled = s.tally.cancelled)
    (hunresolved : s'.tally.unresolved = s.tally.unresolved) :
    Accounted s ([] : List (Inquiry confirm)) s' :=
  ⟨hcalls.trans (List.append_nil _).symm, hinvocations, hcancelled, hunresolved, nofun⟩

theorem append {qs qs' : List (Inquiry confirm)} (h : Accounted s qs s1)
    (h' : Accounted s1 qs' s') : Accounted s (qs ++ qs') s' := by
  have hcalls := h'.calls
  have hinvocations := h'.invocations
  have hcancelled := h'.cancelled
  have hunresolved := h'.unresolved
  rw [h.calls] at hcalls
  rw [h.invocations] at hinvocations
  rw [h.cancelled] at hcancelled
  rw [h.unresolved] at hunresolved
  refine ⟨?_, ?_, ?_, ?_, ?_⟩
  · rw [hcalls, List.flatMap_append, List.append_assoc]
  · rw [List.flatMap_append, completedIn_append]
    omega
  · rw [List.flatMap_append, abandonedIn_append]
    omega
  · rw [List.countP_append, List.countP_append]
    omega
  · intro q hq
    exact (List.mem_append.mp hq).elim (h.findings q) (h'.findings q)

/-- One probe that is counted. -/
theorem single {o : Oracle σ} {q : Inquiry confirm} {p : Probe} (h : ProbedAs o s q (.ok p, s1)) :
    Accounted s [q] (s1.record p) := by
  obtain ⟨hinvocations, hcancelled, hunresolved, _⟩ := q.counts_of_ok h.finding.symm s.tally
  have htally : (s1.record p).tally = s.tally.record p := congrArg (·.record p) h.tally
  have hcount : ∀ f : Inquiry confirm → Bool, [q].countP f = (f q).toNat := by
    intro f
    cases hf : f q <;> simp [hf]
  refine ⟨?_, ?_, ?_, ?_, ?_⟩
  · rw [List.flatMap_singleton]
    exact h.calls
  · rw [List.flatMap_singleton, htally, hinvocations]
  · rw [List.flatMap_singleton, htally, hcancelled]
  · rw [hcount, hcount, htally, hunresolved]
  · intro q' hq'
    obtain rfl := List.mem_singleton.mp hq'
    exact ⟨p, h.finding.symm⟩

/-- Every call came to a verdict or was abandoned. -/
theorem length_calls {qs : List (Inquiry confirm)} (h : Accounted s qs s') :
    (qs.flatMap Inquiry.calls).length =
      completedIn (qs.flatMap Inquiry.calls) + abandonedIn (qs.flatMap Inquiry.calls) := by
  have hfindings := h.findings
  clear h
  induction qs with
  | nil => rfl
  | cons q qs ih =>
    obtain ⟨p, hp⟩ := hfindings q List.mem_cons_self
    obtain ⟨_, _, _, hone⟩ := q.counts_of_ok hp {}
    have hrest := ih fun q' hq' => hfindings q' (List.mem_cons_of_mem _ hq')
    rw [List.flatMap_cons, List.length_append, completedIn_append, abandonedIn_append]
    omega

end Accounted

theorem accounted_firstFailing {α : Type} {o : Oracle σ} {build : α → Candidate} {is : List α}
    {s s' : Session σ} {x : Option α} (h : firstFailing o confirm build is s = (.ok x, s')) :
    ∃ qs : List (Inquiry confirm), Accounted s qs s' := by
  induction is generalizing s with
  | nil =>
    cases h
    exact ⟨[], .nil rfl rfl rfl rfl⟩
  | cons i rest ih =>
    obtain ⟨q, _, hq⟩ := probe_inquiry o confirm (build i) s
    rw [firstFailing] at h
    rcases hp : probe o confirm (build i) s with ⟨_ | p, s1⟩
    · rw [hp] at h
      cases h
    · rw [hp] at h hq
      dsimp only at h
      split at h
      · cases h
        exact ⟨[q], .single hq⟩
      · obtain ⟨qs, hqs⟩ := ih h
        exact ⟨[q] ++ qs, Accounted.append (.single hq) hqs⟩

/-- All that a search in order does is accounted for, as long as there is no error. -/
theorem links_accounted (o : Oracle σ) (confirm : Bool) :
    (scanInOrder o confirm).Links fun s s' => ∃ qs : List (Inquiry confirm), Accounted s qs s' where
  refl _ := ⟨[], .nil rfl rfl rfl rfl⟩
  trans := fun ⟨qs, h⟩ ⟨qs', h'⟩ => ⟨qs ++ qs', h.append h'⟩
  note s e := ⟨[], .nil (s.calls_note e) rfl rfl rfl⟩
  proceed s st r := by
    obtain ⟨hinvocations, hcancelled, hunresolved⟩ := s.counts_proceed_probes st r
    exact ⟨[], .nil (s.calls_proceed st r) hinvocations hcancelled hunresolved⟩
  scan h := accounted_firstFailing h

theorem accounted_verify {opts : Options} {o : Oracle σ} {input : Candidate} {s s' : Session σ}
    (h : verify opts o input s = (.ok (), s')) :
    ∃ qs : List (Inquiry opts.doubleCheck), Accounted s qs s' := by
  rcases verify_ok h with ⟨_, rfl⟩ | ⟨_, p, s1, hp, rfl⟩
  · exact ⟨[], .nil rfl rfl rfl rfl⟩
  · obtain ⟨q, _, hq⟩ := probe_inquiry o opts.doubleCheck input s
    rw [hp] at hq
    exact ⟨[q], .single hq⟩

/-! ## Results -/

/-- The counts of the result are those of the inquiries. -/
structure Result.Accounts (r : Result) (qs : List (Inquiry confirm)) : Prop where
  invocations : r.invocationCount = completedIn (qs.flatMap Inquiry.calls)
  cancelled : r.cancelledCount = abandonedIn (qs.flatMap Inquiry.calls)
  total : r.invocationCount + r.cancelledCount = (qs.flatMap Inquiry.calls).length
  unresolved :
    r.unresolvedCount = qs.countP Inquiry.unresolvedAtOnce + qs.countP Inquiry.unconfirmed

theorem accounts_of_minimize {o : Oracle σ} {opts : Options} (hjobs : opts.jobs = 1)
    {input : Candidate} {s s' : Session σ} {r : Result}
    (h : minimize opts o input s = (.ok r, s')) :
    ∃ qs : List (Inquiry opts.doubleCheck),
      s'.calls = s.calls ++ qs.flatMap Inquiry.calls ∧ r.Accounts qs := by
  have hscan : opts.scan o = scanInOrder o opts.doubleCheck := if_pos hjobs
  unfold minimize at h
  rw [hscan] at h
  obtain ⟨⟨qs, haccounted⟩, hr⟩ :=
    (links_accounted o opts.doubleCheck).minimizeWith accounted_verify h
  have hinvocations := haccounted.invocations
  have hcancelled := haccounted.cancelled
  have hunresolved := haccounted.unresolved
  have hlength := haccounted.length_calls
  refine ⟨qs, haccounted.calls, ?_⟩
  rw [hr]
  simp only [Nat.zero_add] at hinvocations hcancelled hunresolved
  refine ⟨hinvocations, hcancelled, ?_, hunresolved⟩
  rw [hlength, ← hinvocations, ← hcancelled]
  rfl

/-- A checked minimization asks about the input first, and then minimizes it. -/
theorem drive_ok {o : Oracle σ} {opts : Options} {input : Candidate} {s s' : Session σ}
    {r : Result} (h : drive opts o input s = (.ok r, s')) :
    ∃ s1 s2, s1.calls = s.calls ++ [(input, .ok (some .fails))] ∧
      minimize opts o input s1 = (.ok r, s2) ∧ s'.calls = s2.calls := by
  unfold drive driveBy checkPrecondition at h
  rcases hask : s.ask o input with ⟨a, s1⟩
  obtain ⟨hcalls, _, _⟩ := Session.ask_spec hask
  rw [hask] at h
  rcases a with e | _ | v
  · cases h
  · cases h
  · cases v with
    | passes => cases h
    | unresolved => cases h
    | fails =>
      simp only [Answer.resolved] at h
      rcases hm : minimize opts o input s1 with ⟨_ | r', s2⟩
      · rw [hm] at h
        cases h
      · rw [hm] at h
        cases h
        exact ⟨s1, s2, hcalls, hm, s2.calls_note _⟩

/-- **The counts are those of the calls.** Against any oracle, in a search in order with a result,
    the calls are those of a list of inquiries, and of no other list. The calls that the result
    counts are the ones that came to a verdict, the cancelled ones those that were abandoned, and
    there are no others; unresolved are the inquiries whose first call left the candidate so and
    those whose second call did not confirm a failure. A checked minimization makes one more call,
    before all others. -/
theorem calls_accounted (o : Oracle σ) (opts : Options) (hjobs : opts.jobs = 1)
    (input : Candidate) (s : Session σ) :
    (∀ r s', minimize opts o input s = (.ok r, s') →
      ∃ qs : List (Inquiry opts.doubleCheck),
        s'.calls = s.calls ++ qs.flatMap Inquiry.calls ∧
        (∀ qs' : List (Inquiry opts.doubleCheck),
          s'.calls = s.calls ++ qs'.flatMap Inquiry.calls → qs' = qs) ∧
        r.Accounts qs) ∧
    ∀ r s', drive opts o input s = (.ok r, s') →
      ∃ qs : List (Inquiry opts.doubleCheck),
        s'.calls = s.calls ++ (input, .ok (some .fails)) :: qs.flatMap Inquiry.calls ∧
        s'.calls.length = s.calls.length + 1 + (r.invocationCount + r.cancelledCount) ∧
        r.Accounts qs := by
  refine ⟨fun r s' h => ?_, fun r s' h => ?_⟩
  · obtain ⟨qs, hcalls, haccounts⟩ := accounts_of_minimize hjobs h
    refine ⟨qs, hcalls, fun qs' hcalls' => ?_, haccounts⟩
    rw [hcalls] at hcalls'
    exact (Inquiry.flatMap_calls_injective (List.append_cancel_left hcalls')).symm
  · obtain ⟨s1, s2, hfirst, hm, hlast⟩ := drive_ok h
    obtain ⟨qs, hcalls, haccounts⟩ := accounts_of_minimize hjobs hm
    have hall : s'.calls = s.calls ++ (input, .ok (some .fails)) :: qs.flatMap Inquiry.calls := by
      rw [hlast, hcalls, hfirst, List.append_assoc]
      rfl
    refine ⟨qs, hall, ?_, haccounts⟩
    rw [hall, haccounts.total, List.length_append, List.length_cons]
    omega

/-- The oracle that gives the answers of a list one after the other, whatever it is asked about, and
    passes when there are no more. -/
def Oracle.replaying : Oracle (List Answer) where
  call _ _
    | [] => (⟨.ok (some .passes), []⟩, [])
    | a :: answers => (⟨a, []⟩, answers)

/-- A confirmed failure, an abandoned call, a failure that is not confirmed, an unresolved verdict
    and a failure whose second call is abandoned. -/
def mixedAnswers : List Answer :=
  [.ok (some .fails), .ok (some .fails), .ok none, .ok (some .fails), .ok (some .passes),
    .ok (some .unresolved), .ok (some .fails), .ok none]

/-- Probes of all kinds, without and with a check before them. -/
theorem calls_accounted_replaying :
    (∃ (r : Result) (s' : Session (List Answer)) (qs : List (Inquiry true)),
      minimize ⟨1, true, true⟩ Oracle.replaying [97, 98] (Session.start mixedAnswers) =
        (.ok r, s') ∧ s'.calls = qs.flatMap Inquiry.calls ∧ r.Accounts qs ∧
      r.invocationCount = 6 ∧ r.cancelledCount = 2 ∧ r.unresolvedCount = 2) ∧
    ∃ r s', drive ⟨1, true, true⟩ Oracle.replaying [97, 98]
        (Session.start (.ok (some .fails) :: mixedAnswers)) = (.ok r, s') ∧
      s'.calls.length = 1 + (r.invocationCount + r.cancelledCount) ∧ s'.calls.length = 9 := by
  have hresult : (minimize ⟨1, true, true⟩ Oracle.replaying [97, 98]
      (Session.start mixedAnswers)).1 = .ok ⟨[97, 98], 2, 2, 6, 2, 0, 0, 0, 2⟩ := by
    cbv
  have hchecked : checkPrecondition Oracle.replaying [97, 98]
      (Session.start (.ok (some .fails) :: mixedAnswers)) =
        (.ok (), ⟨mixedAnswers, {}, [.call [97, 98] (.ok (some .fails))]⟩) := rfl
  have hafter : (minimize ⟨1, true, true⟩ Oracle.replaying [97, 98]
      ⟨mixedAnswers, {}, [.call [97, 98] (.ok (some .fails))]⟩).1 =
        .ok ⟨[97, 98], 2, 2, 6, 2, 0, 0, 0, 2⟩ := by
    cbv
  refine ⟨?_, ?_⟩
  · have h := Prod.fst_eq_iff.mp hresult
    obtain ⟨qs, hcalls, _, haccounts⟩ := (calls_accounted _ _ rfl _ _).1 _ _ h
    exact ⟨_, _, qs, h, hcalls, haccounts, rfl, rfl, rfl⟩
  · have hdriven : ∃ s', drive ⟨1, true, true⟩ Oracle.replaying [97, 98]
        (Session.start (.ok (some .fails) :: mixedAnswers)) =
          (.ok ⟨[97, 98], 2, 2, 6, 2, 0, 0, 0, 2⟩, s') := by
      unfold drive driveBy
      rw [hchecked]
      dsimp only
      rw [Prod.fst_eq_iff.mp hafter]
      exact ⟨_, rfl⟩
    obtain ⟨s', h⟩ := hdriven
    obtain ⟨qs, _, hlength, _⟩ := (calls_accounted _ _ rfl _ _).2 _ _ h
    have hzero : (Session.start (.ok (some .fails) :: mixedAnswers)).calls.length = 0 := rfl
    rw [hzero, Nat.zero_add] at hlength
    exact ⟨_, _, h, hlength, hlength⟩

end DeltaDebug
