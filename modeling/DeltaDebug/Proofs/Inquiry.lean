import DeltaDebug.Search.Probe

/-
  One probe, as the calls of the oracle show it. An `Inquiry` is what passes between a search and
  the oracle while one candidate is probed: the answer to the first call and, if a failure has to
  be confirmed, the answer to the second. What the probe comes to follows from the answers alone
  (`Inquiry.finding`), whatever the oracle's state is.

  `probe_inquiry` is the only statement that opens `probe`: it adds the calls of one inquiry to the
  record, comes to its finding and counts nothing. Of an oracle that answers by a fixed function
  `f` more is known: the finding is `settle confirm (f c)` (`probe_settle`). If the answers are only
  `Akin` those of `f`, that is still so for all that matters to a scan (`probe_of_akin`).
-/

namespace DeltaDebug

variable {σ : Type} {confirm : Bool}

/-! ## The record of calls -/

namespace Session

@[simp] theorem calls_note (s : Session σ) (e : Event) : (s.note e).calls = s.calls := by
  unfold note calls
  simp

/-- Asking adds one call to the record, whatever the target logs meanwhile. -/
@[simp] theorem calls_ask (s : Session σ) (o : Oracle σ) (c : Candidate) :
    (s.ask o c).2.calls = s.calls ++ [(c, (s.ask o c).1)] := by
  unfold ask calls
  simp

end Session

/-- The answer may come back when the oracle is asked about the candidate. -/
def Oracle.Gives (o : Oracle σ) (c : Candidate) (a : Answer) : Prop :=
  ∃ st, (o.call none c st).1.answer = a

/-- The oracle is deterministic: `f` gives its answers, whatever its state is. -/
def Oracle.AnswersBy (o : Oracle σ) (f : Candidate → Answer) : Prop :=
  ∀ c st, (o.call none c st).1.answer = f c

theorem Oracle.AnswersBy.eq_of_gives {o : Oracle σ} {f : Candidate → Answer} (hf : o.AnswersBy f)
    {c : Candidate} {a : Answer} (h : o.Gives c a) : a = f c := by
  obtain ⟨st, rfl⟩ := h
  exact hf c st

theorem Oracle.answersBy_ofFunction (f : Candidate → Answer) :
    (Oracle.ofFunction f).AnswersBy f := fun _ _ => rfl

/-- The answers of a target that fails on every candidate with the bytes `w`, in their order. -/
def failsOn (w c : Candidate) : Answer :=
  .ok (some (if w.isSublist c then .fails else .passes))

/-- The answers of a target that fails on the listed candidates and on no others. -/
def failsAt (cs : List Candidate) (c : Candidate) : Answer :=
  .ok (some (if c ∈ cs then .fails else .passes))

/-- What one call does to a session. -/
theorem Session.ask_spec {s s' : Session σ} {o : Oracle σ} {c : Candidate} {a : Answer}
    (h : s.ask o c = (a, s')) :
    s'.calls = s.calls ++ [(c, a)] ∧ o.Gives c a ∧ s'.tally = s.tally := by
  have hcalls := s.calls_ask o c
  rw [h] at hcalls
  refine ⟨hcalls, ⟨s.oracle, ?_⟩, ?_⟩
  · exact congrArg Prod.fst h
  · exact (congrArg (fun r => r.2.tally) h).symm

/-! ## Inquiries -/

/-- What passes between a search and the oracle while one candidate is probed. There is a second
    call exactly if failures have to be confirmed and the first call saw one. -/
structure Inquiry (confirm : Bool) where
  candidate : Candidate
  first : Answer
  second : Option Answer
  second_isSome : second.isSome ↔ confirm = true ∧ first = .ok (some .fails)

namespace Inquiry

/-- The calls of an inquiry, in their order. -/
def calls (q : Inquiry confirm) : List (Candidate × Answer) :=
  (q.candidate, q.first) :: q.second.toList.map fun a => (q.candidate, a)

/-- The answers of an inquiry, in their order. -/
def answers (q : Inquiry confirm) : List Answer := q.first :: q.second.toList

/-- What the probe comes to. An unconfirmed failure leaves the candidate unresolved. -/
def finding (q : Inquiry confirm) : Except OracleError Probe :=
  match q.first, q.second with
  | .error e, _ => .error e
  | .ok none, _ => .ok (.abandoned 0)
  | .ok (some v), none => .ok ⟨1, some v⟩
  | .ok (some _), some (.error e) => .error e
  | .ok (some _), some (.ok none) => .ok (.abandoned 1)
  | .ok (some _), some (.ok (some .fails)) => .ok ⟨2, some .fails⟩
  | .ok (some _), some (.ok (some _)) => .ok ⟨2, some .unresolved⟩

/-- The candidate was classified as failing. -/
def Fails (q : Inquiry confirm) : Prop := ∃ p, q.finding = .ok p ∧ p.fails = true

theorem forall_mem_calls {q : Inquiry confirm} {P : Candidate × Answer → Prop} :
    (∀ call ∈ q.calls, P call) ↔
      P (q.candidate, q.first) ∧ ∀ a, q.second = some a → P (q.candidate, a) := by
  simp [calls]

theorem map_snd_calls (q : Inquiry confirm) : q.calls.map (·.2) = q.answers := by
  unfold calls answers
  rw [List.map_cons, List.map_map]
  exact congrArg _ (List.map_id _)

theorem fst_of_mem_calls {q : Inquiry confirm} : ∀ call ∈ q.calls, call.1 = q.candidate :=
  forall_mem_calls.mpr ⟨rfl, fun _ _ => rfl⟩

/-- A candidate that is classified as failing failed in every call: in the only one, or in both if
    failures have to be confirmed. -/
theorem Fails.calls_eq {q : Inquiry confirm} (h : q.Fails) :
    q.calls = List.replicate (if confirm then 2 else 1) (q.candidate, .ok (some .fails)) := by
  obtain ⟨p, hp, hfails⟩ := h
  obtain ⟨c, first, second, hs⟩ := q
  cases second with
  | none =>
    rcases first with e | _ | v
    · cases hp
    · cases hp
      cases hfails
    · cases hp
      obtain rfl : v = .fails := by simpa [Probe.fails] using hfails
      obtain rfl : confirm = false := by simpa using hs
      rfl
  | some a =>
    obtain ⟨rfl, rfl⟩ := hs.mp rfl
    rcases a with e | _ | v
    · cases hp
    · cases hp
      cases hfails
    · cases v with
      | fails => rfl
      | passes => cases hp; cases hfails
      | unresolved => cases hp; cases hfails

end Inquiry

/-! ## Deterministic oracles -/

/-- What a probe comes to if every call gets the same answer. -/
def settle (confirm : Bool) : Answer → Except OracleError Probe
  | .error e => .error e
  | .ok none => .ok (.abandoned 0)
  | .ok (some .fails) => .ok ⟨if confirm then 2 else 1, some .fails⟩
  | .ok (some v) => .ok ⟨1, some v⟩

theorem Inquiry.finding_eq_settle {q : Inquiry confirm} {a : Answer}
    (h : ∀ call ∈ q.calls, call.2 = a) : q.finding = settle confirm a := by
  obtain ⟨c, first, second, hs⟩ := q
  obtain rfl : first = a := (forall_mem_calls.mp h).1
  cases second with
  | none =>
    rcases first with e | _ | v
    · rfl
    · rfl
    · cases v with
      | fails =>
        obtain rfl : confirm = false := by simpa using hs
        rfl
      | passes => rfl
      | unresolved => rfl
  | some b =>
    obtain rfl : b = first := (forall_mem_calls.mp h).2 b rfl
    obtain ⟨rfl, rfl⟩ := hs.mp rfl
    rfl

theorem settle_eq_error {a : Answer} {e : OracleError} :
    settle confirm a = .error e ↔ a = .error e := by
  rcases a with e' | _ | v
  · simp [settle]
  · simp [settle]
  · cases v <;> simp [settle]

theorem fails_of_settle {a : Answer} {p : Probe} (h : settle confirm a = .ok p) :
    p.fails = true ↔ a = .ok (some .fails) := by
  rcases a with e' | _ | v
  · cases h
  · cases h
    simp [Probe.fails, Probe.abandoned]
  · cases v <;> cases h <;> simp [Probe.fails]

/-! ## Answers that are akin -/

/-- A scan goes on from both answers in the same way: both are failures, both are the same error,
    or neither is a failure or an error. -/
structure Akin (a b : Answer) : Prop where
  fails_iff : a = .ok (some .fails) ↔ b = .ok (some .fails)
  error_iff : ∀ e, a = .error e ↔ b = .error e

theorem Akin.refl (a : Answer) : Akin a a := ⟨Iff.rfl, fun _ => Iff.rfl⟩

/-- The oracle's answers are like those of `f`. Which of the other answers it gives may change from
    call to call. -/
def Oracle.AnswersLike (o : Oracle σ) (f : Candidate → Answer) : Prop :=
  ∀ c a, o.Gives c a → Akin a (f c)

theorem Oracle.AnswersBy.answersLike {o : Oracle σ} {f : Candidate → Answer}
    (hf : o.AnswersBy f) : o.AnswersLike f := by
  intro c a h
  rw [hf.eq_of_gives h]
  exact Akin.refl _

/-- There is a second call only if the first saw a failure, so if the answers to an inquiry are
    alike, they are the same. -/
theorem Inquiry.finding_of_akin {q : Inquiry confirm} {b : Answer}
    (h : ∀ call ∈ q.calls, Akin call.2 b) : ∃ a, Akin a b ∧ q.finding = settle confirm a := by
  obtain ⟨hfirst, hsecond⟩ := Inquiry.forall_mem_calls.mp h
  refine ⟨q.first, hfirst, q.finding_eq_settle (forall_mem_calls.mpr ⟨rfl, fun a ha => ?_⟩)⟩
  obtain ⟨_, hfails⟩ := q.second_isSome.mp (by rw [ha]; rfl)
  exact ((hsecond a ha).fails_iff.mpr (hfirst.fails_iff.mp hfails)).trans hfails.symm

/-! ## Probes -/

/-- A probe goes like an inquiry: it adds the calls of the inquiry to the record, each with an
    answer of the oracle, and comes to the finding. It counts nothing. -/
structure ProbedAs (o : Oracle σ) (s : Session σ) (q : Inquiry confirm)
    (r : Except OracleError Probe × Session σ) : Prop where
  finding : r.1 = q.finding
  calls : r.2.calls = s.calls ++ q.calls
  gives : ∀ call ∈ q.calls, o.Gives q.candidate call.2
  tally : r.2.tally = s.tally

theorem probedAs_once {o : Oracle σ} {s s1 s' : Session σ} {c : Candidate} {a : Answer}
    (h : s.ask o c = (a, s1)) (hcalls : s'.calls = s1.calls) (htally : s'.tally = s1.tally)
    (hs : (none : Option Answer).isSome ↔ confirm = true ∧ a = .ok (some .fails)) :
    ProbedAs o s ⟨c, a, none, hs⟩ (Inquiry.finding ⟨c, a, none, hs⟩, s') := by
  obtain ⟨hc, hg, ht⟩ := Session.ask_spec h
  exact ⟨rfl, hcalls.trans hc, Inquiry.forall_mem_calls.mpr ⟨hg, by simp⟩, htally.trans ht⟩

theorem probedAs_twice {o : Oracle σ} {s s1 s2 s' : Session σ} {c : Candidate} {a : Answer}
    (h1 : s.ask o c = (.ok (some .fails), s1)) (h2 : s1.ask o c = (a, s2))
    (hcalls : s'.calls = s2.calls) (htally : s'.tally = s2.tally)
    (hs : (some a).isSome ↔
      confirm = true ∧ (Except.ok (some .fails) : Answer) = .ok (some .fails)) :
    ProbedAs o s ⟨c, .ok (some .fails), some a, hs⟩
      (Inquiry.finding ⟨c, .ok (some .fails), some a, hs⟩, s') := by
  obtain ⟨hc1, hg1, ht1⟩ := Session.ask_spec h1
  obtain ⟨hc2, hg2, ht2⟩ := Session.ask_spec h2
  refine ⟨rfl, ?_, ?_, htally.trans (ht2.trans ht1)⟩
  · rw [hcalls, hc2, hc1, List.append_assoc]
    rfl
  · refine Inquiry.forall_mem_calls.mpr ⟨hg1, fun b hb => ?_⟩
    cases hb
    exact hg2

/-- Every probe goes like an inquiry about its candidate. -/
theorem probe_inquiry (o : Oracle σ) (confirm : Bool) (c : Candidate) (s : Session σ) :
    ∃ q : Inquiry confirm, q.candidate = c ∧ ProbedAs o s q (probe o confirm c s) := by
  unfold probe
  rcases h1 : s.ask o c with ⟨a, s1⟩
  rcases a with e | _ | v
  · exact ⟨_, rfl, probedAs_once h1 rfl rfl (by simp)⟩
  · exact ⟨_, rfl, probedAs_once h1 rfl rfl (by simp)⟩
  · cases v with
    | passes => exact ⟨_, rfl, probedAs_once h1 rfl rfl (by simp)⟩
    | unresolved => exact ⟨_, rfl, probedAs_once h1 (s1.calls_note _) rfl (by simp)⟩
    | fails =>
      cases confirm with
      | false => exact ⟨_, rfl, probedAs_once h1 rfl rfl (by simp)⟩
      | true =>
        rcases h2 : s1.ask o c with ⟨b, s2⟩
        simp only [if_true, h2]
        rcases b with e | _ | w
        · exact ⟨_, rfl, probedAs_twice h1 h2 rfl rfl (by simp)⟩
        · exact ⟨_, rfl, probedAs_twice h1 h2 rfl rfl (by simp)⟩
        · cases w with
          | fails => exact ⟨_, rfl, probedAs_twice h1 h2 rfl rfl (by simp)⟩
          | passes => exact ⟨_, rfl, probedAs_twice h1 h2 (s2.calls_note _) rfl (by simp)⟩
          | unresolved => exact ⟨_, rfl, probedAs_twice h1 h2 (s2.calls_note _) rfl (by simp)⟩

/-- What a probe comes to, up to what a scan makes of it. -/
theorem probe_of_akin {o : Oracle σ} {f : Candidate → Answer} (hf : o.AnswersLike f)
    (confirm : Bool) (c : Candidate) (s : Session σ) :
    ∃ a, Akin a (f c) ∧ (probe o confirm c s).1 = settle confirm a := by
  obtain ⟨q, rfl, h⟩ := probe_inquiry o confirm c s
  rw [h.finding]
  exact Inquiry.finding_of_akin fun call hcall => hf _ _ (h.gives call hcall)

/-- A probe with a deterministic oracle. -/
theorem probe_settle {o : Oracle σ} {f : Candidate → Answer} (hf : o.AnswersBy f) (confirm : Bool)
    (c : Candidate) (s : Session σ) : (probe o confirm c s).1 = settle confirm (f c) := by
  obtain ⟨q, rfl, h⟩ := probe_inquiry o confirm c s
  rw [h.finding]
  exact q.finding_eq_settle fun call hcall => hf.eq_of_gives (h.gives call hcall)

/-- All there is to a probe with a deterministic oracle, but for the record of its calls. -/
theorem probe_eq_settle {o : Oracle σ} {f : Candidate → Answer} (hf : o.AnswersBy f)
    (confirm : Bool) (c : Candidate) (s : Session σ) :
    ∃ s', probe o confirm c s = (settle confirm (f c), s') ∧ s'.tally = s.tally := by
  obtain ⟨_, _, h⟩ := probe_inquiry o confirm c s
  exact ⟨_, Prod.ext (probe_settle hf confirm c s) rfl, h.tally⟩

end DeltaDebug
