import DeltaDebug.Target.Wait
import Mathlib.Data.List.Chain

/-
  Waiting for a target, on every course that the turns may take. What one turn can do is said once
  (`wait_cons`): it ends the wait in the way of `endOf`, or it adds its slice to what the later
  turns make of it. `Ends` spells out what has to be found in a turn for each kind of end, in the
  order in which things are looked at. Then, by induction over the turns:

  * `completion_eq_some_iff`: the wait ends as the first turn says that does not let it go on; for a
    time-out it is enough that nothing is reported before (`completion_eq_timedOut_iff`);
  * `kills_of_completion`: the end alone decides how often the target is killed;
  * `sliceAt_of_slices`, `wait_append`: the slices are those of the turns, and turns behind the end
    do not matter;
  * `completion_of_intervals`: the time that is left bounds the turns that are left.

  Main statements: `run_answers` for the answers of a run, `wait_ends` for a wait with a time limit.
-/

namespace DeltaDebug

/-- Nothing is reported in the turn: the target runs, the wait does not fail, the flag is down. -/
def Turn.Quiet (turn : Turn) : Prop := turn.slice = .running ∧ turn.raised = false

/-- How often a target is killed in a wait that ends like this. -/
def Completion.kills : Completion → Nat
  | .timedOut => 1
  | .cancelled => 1
  | .exited _ => 0
  | .failed _ => 0

namespace Target

/-! ## One turn -/

/-- The time is over when the turn starts. -/
def Overdue (t : Target) (turn : Turn) : Prop :=
  ∃ limit, t.timeout = some limit ∧ limit ≤ turn.elapsed

/-- The wait goes on after the turn. -/
def GoesOn (t : Target) (turn : Turn) : Prop := ¬ t.Overdue turn ∧ turn.Quiet

/-- The wait ends in the turn, and in this way. The time goes before the target, and the target
    before the flag. -/
def Ends (t : Target) (turn : Turn) : Completion → Prop
  | .timedOut => t.Overdue turn
  | .failed cause => ¬ t.Overdue turn ∧ turn.slice = .failed cause
  | .exited status => ¬ t.Overdue turn ∧ turn.slice = .exited status
  | .cancelled => ¬ t.Overdue turn ∧ turn.slice = .running ∧ turn.raised = true

/-- How the turn ends the wait, `none` if it does not. -/
def endOf (t : Target) (turn : Turn) : Option Completion :=
  match t.sliceAt turn.elapsed, turn.slice with
  | none, _ => some .timedOut
  | some _, .failed cause => some (.failed cause)
  | some _, .exited status => some (.exited status)
  | some _, .running => if turn.raised then some .cancelled else none

theorem sliceAt_eq_none_iff {t : Target} {turn : Turn} :
    t.sliceAt turn.elapsed = none ↔ t.Overdue turn := by
  unfold sliceAt Overdue
  cases t.timeout with
  | none => simp
  | some limit =>
    by_cases h : limit ≤ turn.elapsed
    · simp [h]
    · simp [h]

theorem exists_sliceAt {t : Target} {turn : Turn} (h : ¬ t.Overdue turn) :
    ∃ slice, t.sliceAt turn.elapsed = some slice :=
  Option.ne_none_iff_exists'.mp (mt sliceAt_eq_none_iff.mp h)

theorem endOf_of_overdue {t : Target} {turn : Turn} (h : t.Overdue turn) :
    t.endOf turn = some .timedOut := by
  unfold endOf
  rw [sliceAt_eq_none_iff.mpr h]

theorem endOf_of_not_overdue {t : Target} {turn : Turn} (h : ¬ t.Overdue turn) :
    t.endOf turn = match turn.slice with
      | .failed cause => some (.failed cause)
      | .exited status => some (.exited status)
      | .running => if turn.raised then some .cancelled else none := by
  obtain ⟨slice, hslice⟩ := exists_sliceAt h
  unfold endOf
  rw [hslice]
  cases turn.slice <;> rfl

theorem endOf_eq_none_iff {t : Target} {turn : Turn} : t.endOf turn = none ↔ t.GoesOn turn := by
  unfold GoesOn Turn.Quiet
  by_cases h : t.Overdue turn
  · simp [endOf_of_overdue h, h]
  · rw [endOf_of_not_overdue h]
    cases turn.slice <;> simp [h]

theorem endOf_eq_some_iff {t : Target} {turn : Turn} {c : Completion} :
    t.endOf turn = some c ↔ t.Ends turn c := by
  by_cases h : t.Overdue turn
  · rw [endOf_of_overdue h]
    cases c <;> simp [Ends, h]
  · rw [endOf_of_not_overdue h]
    cases hslice : turn.slice <;> cases c <;> simp [Ends, h, hslice]

/-- What one turn does to the wait: it ends it, with a last slice unless the time was over, or it
    adds a slice to what the later turns make of it. -/
theorem wait_cons (t : Target) (turn : Turn) (rest : List Turn) :
    (∃ c, t.endOf turn = some c ∧
      t.wait (turn :: rest) = ⟨some c, (t.sliceAt turn.elapsed).toList, c.kills⟩) ∨
    ∃ slice, t.endOf turn = none ∧ t.sliceAt turn.elapsed = some slice ∧
      t.wait (turn :: rest) =
        ⟨(t.wait rest).completion, slice :: (t.wait rest).slices, (t.wait rest).kills⟩ := by
  rw [wait]
  by_cases h : t.Overdue turn
  · rw [endOf_of_overdue h, sliceAt_eq_none_iff.mpr h]
    exact Or.inl ⟨_, rfl, rfl⟩
  · obtain ⟨slice, hslice⟩ := exists_sliceAt h
    rw [endOf_of_not_overdue h, hslice]
    cases turn.slice with
    | failed cause => exact Or.inl ⟨_, rfl, rfl⟩
    | exited status => exact Or.inl ⟨_, rfl, rfl⟩
    | running =>
      cases turn.raised with
      | true => exact Or.inl ⟨_, rfl, rfl⟩
      | false => exact Or.inr ⟨slice, rfl, rfl, rfl⟩

/-! ## The whole wait -/

/-- The first turn that ends the wait decides how it ends. -/
theorem completion_wait (t : Target) (turns : List Turn) :
    (t.wait turns).completion = turns.findSome? t.endOf := by
  induction turns with
  | nil => rfl
  | cons turn rest ih =>
    rw [List.findSome?_cons]
    obtain ⟨c, hend, hwait⟩ | ⟨slice, hend, _, hwait⟩ := t.wait_cons turn rest
    · rw [hwait, hend]
    · rw [hwait, hend, ← ih]

/-- So does it how often the target is killed. -/
theorem kills_of_completion {t : Target} {turns : List Turn} {c : Completion}
    (h : (t.wait turns).completion = some c) : (t.wait turns).kills = c.kills := by
  induction turns with
  | nil => cases h
  | cons turn rest ih =>
    obtain ⟨d, _, hwait⟩ | ⟨slice, _, _, hwait⟩ := t.wait_cons turn rest
    · rw [hwait] at h ⊢
      rw [← Option.some.inj h]
    · rw [hwait] at h ⊢
      exact ih h

theorem completion_eq_some_iff {t : Target} {turns : List Turn} {c : Completion} :
    (t.wait turns).completion = some c ↔ ∃ earlier turn later,
      turns = earlier ++ turn :: later ∧ (∀ u ∈ earlier, t.GoesOn u) ∧ t.Ends turn c := by
  rw [completion_wait, List.findSome?_eq_some_iff]
  simp only [endOf_eq_none_iff, endOf_eq_some_iff]
  constructor
  · rintro ⟨earlier, turn, later, hturns, hend, hearlier⟩
    exact ⟨earlier, turn, later, hturns, hearlier, hend⟩
  · rintro ⟨earlier, turn, later, hturns, hearlier, hend⟩
    exact ⟨earlier, turn, later, hturns, hend, hearlier⟩

/-- A wait times out exactly if the time is over in some turn before which nothing is reported. -/
theorem completion_eq_timedOut_iff {t : Target} {turns : List Turn} :
    (t.wait turns).completion = some .timedOut ↔ ∃ earlier turn later,
      turns = earlier ++ turn :: later ∧ (∀ u ∈ earlier, u.Quiet) ∧ t.Overdue turn := by
  constructor
  · intro h
    obtain ⟨earlier, turn, later, hturns, hearlier, hend⟩ := completion_eq_some_iff.mp h
    exact ⟨earlier, turn, later, hturns, fun u hu => (hearlier u hu).2, hend⟩
  · rintro ⟨earlier, turn, later, rfl, hearlier, hover⟩
    rw [completion_wait]
    -- The time may be over earlier still: then that turn ends the wait, and in the same way.
    induction earlier with
    | nil => rw [List.nil_append, List.findSome?_cons, endOf_of_overdue hover]
    | cons u earlier ih =>
      obtain ⟨hu, hrest⟩ := List.forall_mem_cons.mp hearlier
      rw [List.cons_append, List.findSome?_cons]
      by_cases h : t.Overdue u
      · rw [endOf_of_overdue h]
      · rw [endOf_eq_none_iff.mpr ⟨h, hu⟩]
        exact ih hrest

/-! ## Answers -/

/-- The failure of a target is one that is looked for. -/
def Crashed (t : Target) (status : ExitStatus) (stderr : Candidate) : Prop :=
  status.success = false ∧
    (t.crashPattern = none ∨ ∃ p, t.crashPattern = some p ∧ p.matchesBytes stderr = true)

/-- A target that ended is never unresolved: it fails if it crashed, and passes otherwise. -/
theorem classify_eq_iff {t : Target} {status : ExitStatus} {stderr : Candidate} {v : Verdict} :
    (t.classify status stderr).1 = v ↔
      v ≠ .unresolved ∧ (v = .fails ↔ t.Crashed status stderr) := by
  unfold classify Crashed
  cases hstatus : status.success with
  | true => cases v <;> simp
  | false =>
    cases hpattern : t.crashPattern with
    | none => cases v <;> simp
    | some p =>
      cases hmatch : p.matchesBytes stderr with
      | true => cases v <;> simp [hmatch]
      | false => cases v <;> simp [hmatch]

theorem success_eq_false_iff {status : ExitStatus} :
    status.success = false ↔ status ≠ .code 0 := by
  simp [ExitStatus.success]

/-- There is a verdict on a target that ended like this, and it is `v`: without a pattern the status
    alone decides; with a pattern the error output was read to its end, and decides too. -/
def Judged (t : Target) (status : ExitStatus) (stderr : Collection) (v : Verdict) : Prop :=
  (t.crashPattern = none ∧ (v = .fails ↔ status ≠ .code 0)) ∨
  ∃ p bytes, t.crashPattern = some p ∧ stderr = .done bytes ∧
    (v = .fails ↔ status ≠ .code 0 ∧ p.matchesBytes bytes = true)

theorem judged_iff {t : Target} {status : ExitStatus} {remains : Remains} {v : Verdict} :
    t.Judged status remains.stderr v ↔
      ∃ stderr, t.captured remains = .ok stderr ∧ (v = .fails ↔ t.Crashed status stderr) := by
  unfold Judged Crashed captured
  rw [success_eq_false_iff]
  cases hpattern : t.crashPattern with
  | none => simp
  | some p =>
    -- only an error output that was read to its end gives bytes to match
    cases hstderr : remains.stderr with
    | done bytes => simp
    | failed cause => simp
    | panicked => simp

/-- The candidate was written, or the target did not want all of it. -/
theorem fault?_eq_none_iff {feeding : Feeding} :
    feeding.fault? = none ↔ feeding = .done ∨ feeding = .brokenPipe := by
  cases feeding <;> simp [Feeding.fault?]

/-- The ends of a wait that come to an answer, and the answer of each. -/
theorem answer_eq_ok_iff {t : Target} {c : Completion} {remains : Remains} {v : Option Verdict} :
    (t.answer c remains).answer = .ok v ↔
      (v = none ∧ c = .cancelled) ∨ (v = some .unresolved ∧ c = .timedOut) ∨
      ∃ status stderr, c = .exited status ∧ remains.feeding.fault? = none ∧
        t.captured remains = .ok stderr ∧ v = some (t.classify status stderr).1 := by
  unfold answer
  cases c with
  | exited status =>
    cases remains.feeding.fault? with
    | some e => simp
    | none => cases t.captured remains <;> simp [eq_comm]
  | timedOut => simp [eq_comm]
  | cancelled => simp [eq_comm]
  | failed cause => simp

/-- The reply of a run, without what is logged. -/
def answer? (t : Target) (turns : List Turn) (remains : Remains) : Option Answer :=
  (t.run? turns remains).map Reply.answer

theorem answer?_eq_some_iff {t : Target} {turns : List Turn} {remains : Remains} {a : Answer} :
    t.answer? turns remains = some a ↔
      ∃ c, (t.wait turns).completion = some c ∧ (t.answer c remains).answer = a := by
  unfold answer? run?
  cases (t.wait turns).completion <;> simp

theorem answer?_eq_none_iff {t : Target} {turns : List Turn} {remains : Remains} :
    t.answer? turns remains = some (.ok none) ↔ (t.wait turns).completion = some .cancelled := by
  rw [answer?_eq_some_iff]
  constructor
  · rintro ⟨c, hc, hanswer⟩
    obtain ⟨_, rfl⟩ | ⟨hnone, _⟩ | ⟨_, _, _, _, _, hnone⟩ := answer_eq_ok_iff.mp hanswer
    · exact hc
    · cases hnone
    · cases hnone
  · intro hc
    exact ⟨_, hc, answer_eq_ok_iff.mpr (Or.inl ⟨rfl, rfl⟩)⟩

theorem answer?_eq_unresolved_iff {t : Target} {turns : List Turn} {remains : Remains} :
    t.answer? turns remains = some (.ok (some .unresolved)) ↔
      (t.wait turns).completion = some .timedOut := by
  rw [answer?_eq_some_iff]
  constructor
  · rintro ⟨c, hc, hanswer⟩
    obtain ⟨hnone, _⟩ | ⟨_, rfl⟩ | ⟨_, _, _, _, _, hv⟩ := answer_eq_ok_iff.mp hanswer
    · cases hnone
    · exact hc
    · exact absurd rfl (classify_eq_iff.mp (Option.some.inj hv).symm).1
  · intro hc
    exact ⟨_, hc, answer_eq_ok_iff.mpr (Or.inr (Or.inl ⟨rfl, rfl⟩))⟩

theorem answer?_eq_verdict_iff {t : Target} {turns : List Turn} {remains : Remains} {v : Verdict}
    (hv : v ≠ .unresolved) :
    t.answer? turns remains = some (.ok (some v)) ↔
      ∃ status, (t.wait turns).completion = some (.exited status) ∧
        remains.feeding.fault? = none ∧ t.Judged status remains.stderr v := by
  rw [answer?_eq_some_iff]
  constructor
  · rintro ⟨c, hc, hanswer⟩
    obtain ⟨hnone, _⟩ | ⟨hunresolved, _⟩ | ⟨status, stderr, rfl, hfault, hstderr, hverdict⟩ :=
      answer_eq_ok_iff.mp hanswer
    · cases hnone
    · exact absurd (Option.some.inj hunresolved) hv
    · have hclass := classify_eq_iff.mp (Option.some.inj hverdict).symm
      exact ⟨status, hc, hfault, judged_iff.mpr ⟨stderr, hstderr, hclass.2⟩⟩
  · rintro ⟨status, hc, hfault, hjudged⟩
    obtain ⟨stderr, hstderr, hverdict⟩ := judged_iff.mp hjudged
    have hclass := classify_eq_iff.mpr ⟨hv, hverdict⟩
    exact ⟨_, hc, answer_eq_ok_iff.mpr
      (Or.inr (Or.inr ⟨status, stderr, rfl, hfault, hstderr, congrArg some hclass.symm⟩))⟩

/-- A target that is reported to have ended is not killed, nor one that could not be waited for. -/
theorem kills_of_reported {t : Target} {earlier later : List Turn} {turn : Turn}
    (hearlier : ∀ u ∈ earlier, t.GoesOn u) (hover : ¬ t.Overdue turn)
    (hslice : turn.slice ≠ .running) : (t.wait (earlier ++ turn :: later)).kills = 0 := by
  have hkills {c : Completion} (hend : t.Ends turn c) :
      (t.wait (earlier ++ turn :: later)).kills = c.kills :=
    kills_of_completion
      (completion_eq_some_iff.mpr ⟨earlier, turn, later, rfl, hearlier, hend⟩)
  cases hturn : turn.slice with
  | running => exact absurd hturn hslice
  | exited status => exact hkills (c := .exited status) ⟨hover, hturn⟩
  | failed cause => exact hkills (c := .failed cause) ⟨hover, hturn⟩

theorem resolved_eq_unresolved_iff {a : Answer} :
    a.resolved = .ok .unresolved ↔ a = .ok none ∨ a = .ok (some .unresolved) := by
  rcases a with e | _ | v <;> simp [Answer.resolved]

/-- **What a run of a target answers.** For every course of the wait: the call is abandoned exactly
    if the flag is found up in a turn up to which the time is not over and nothing else is reported;
    it is unresolved exactly if the time is over in a turn before which nothing is reported; it
    passes or fails exactly if the target is reported to have ended, its input was written or it
    closed it, and either there is no pattern, and nothing depends on the error output, or the error
    output was read to its end. It then fails exactly if the exit code is not 0 and, where there is
    a pattern, the bytes of the error output match it. The target is killed once where the call is
    abandoned or unresolved, and never where it is reported to have ended or the wait fails. Where
    the flag is never up, and a verdict is called for, the answer is unresolved only for lack of
    time. -/
theorem run_answers (t : Target) (turns : List Turn) (remains : Remains) :
    (t.answer? turns remains = some (.ok none) ↔ ∃ earlier turn later,
      turns = earlier ++ turn :: later ∧ (∀ u ∈ earlier, t.GoesOn u) ∧
      ¬ t.Overdue turn ∧ turn.slice = .running ∧ turn.raised = true) ∧
    (t.answer? turns remains = some (.ok (some .unresolved)) ↔ ∃ earlier turn later,
      turns = earlier ++ turn :: later ∧ (∀ u ∈ earlier, u.Quiet) ∧ t.Overdue turn) ∧
    (∀ v ≠ .unresolved, t.answer? turns remains = some (.ok (some v)) ↔
      ∃ earlier turn later status,
        turns = earlier ++ turn :: later ∧ (∀ u ∈ earlier, t.GoesOn u) ∧
        ¬ t.Overdue turn ∧ turn.slice = .exited status ∧
        (remains.feeding = .done ∨ remains.feeding = .brokenPipe) ∧
        ((t.crashPattern = none ∧ (v = .fails ↔ status ≠ .code 0)) ∨
          ∃ p bytes, t.crashPattern = some p ∧ remains.stderr = .done bytes ∧
            (v = .fails ↔ status ≠ .code 0 ∧ p.matchesBytes bytes = true))) ∧
    ((t.answer? turns remains = some (.ok none) ∨
        t.answer? turns remains = some (.ok (some .unresolved)) → (t.wait turns).kills = 1) ∧
      ∀ earlier turn later, turns = earlier ++ turn :: later → (∀ u ∈ earlier, t.GoesOn u) →
        ¬ t.Overdue turn → turn.slice ≠ .running → (t.wait turns).kills = 0) ∧
    ((∀ turn ∈ turns, turn.raised = false) →
      ((t.answer? turns remains).map Answer.resolved = some (.ok .unresolved) ↔
        ∃ earlier turn later,
          turns = earlier ++ turn :: later ∧ (∀ u ∈ earlier, u.Quiet) ∧ t.Overdue turn)) := by
  have hcancelled := (@answer?_eq_none_iff t turns remains).trans completion_eq_some_iff
  have htimedOut := (@answer?_eq_unresolved_iff t turns remains).trans completion_eq_timedOut_iff
  refine ⟨hcancelled, htimedOut, fun v hv => ?_, ⟨?_, ?_⟩, fun hflag => ?_⟩
  · rw [answer?_eq_verdict_iff hv]
    simp only [completion_eq_some_iff, fault?_eq_none_iff]
    constructor
    · rintro ⟨status, ⟨earlier, turn, later, hturns, hearlier, hover, hslice⟩, hfed, hjudged⟩
      exact ⟨earlier, turn, later, status, hturns, hearlier, hover, hslice, hfed, hjudged⟩
    · rintro ⟨earlier, turn, later, status, hturns, hearlier, hover, hslice, hfed, hjudged⟩
      exact ⟨status, ⟨earlier, turn, later, hturns, hearlier, hover, hslice⟩, hfed, hjudged⟩
  · rw [answer?_eq_none_iff, answer?_eq_unresolved_iff]
    rintro (hend | hend)
    · exact kills_of_completion hend
    · exact kills_of_completion hend
  · rintro earlier turn later rfl hearlier hover hslice
    exact kills_of_reported hearlier hover hslice
  · rw [← htimedOut, Option.map_eq_some_iff]
    simp only [resolved_eq_unresolved_iff]
    constructor
    · rintro ⟨a, ha, rfl | rfl⟩
      · obtain ⟨earlier, turn, later, hturns, _, _, _, hraised⟩ := hcancelled.mp ha
        have hmem : turn ∈ turns := hturns ▸ List.mem_append_right _ List.mem_cons_self
        rw [hflag turn hmem] at hraised
        cases hraised
      · exact ha
    · exact fun ha => ⟨_, ha, Or.inr rfl⟩

/-- With the pattern `boom`, a target that ends in time with the code 1 fails if its error output
    has a match, passes if it has none, and gets no verdict if the error output could not be read.
    If the target ends in the very turn in which its time is over, the time goes first, whatever
    the error output is, and the target is killed. -/
theorem run_answers_boom : ∃ p, Regex.ofText? "boom" = some p ∧
    let t : Target := { program := "target", timeout := some 50, crashPattern := some p }
    let inTime : List Turn := [⟨0, .running, false⟩, ⟨49, .exited (.code 1), true⟩]
    let late : List Turn := [⟨0, .running, false⟩, ⟨50, .exited (.code 1), false⟩]
    t.answer? inTime ⟨.brokenPipe, .done (Text.encode "a boom")⟩ = some (.ok (some .fails)) ∧
      t.answer? inTime ⟨.done, .done (Text.encode "a bang")⟩ = some (.ok (some .passes)) ∧
      (∀ v ≠ .unresolved, ∀ cause,
        t.answer? inTime ⟨.done, .failed cause⟩ ≠ some (.ok (some v))) ∧
      (t.wait inTime).kills = 0 ∧
      (∀ turn ∈ late, turn.raised = false) ∧
      ∀ stderr, t.answer? late ⟨.done, stderr⟩ = some (.ok (some .unresolved)) ∧
        (t.wait late).kills = 1 ∧
        (t.answer? late ⟨.done, stderr⟩).map Answer.resolved = some (.ok .unresolved) := by
  obtain ⟨p, hp⟩ := Option.isSome_iff_exists.mp
    (by decide +kernel : (Regex.ofText? "boom").isSome = true)
  have hboom : (Regex.ofText? "boom").map (·.matchesBytes (Text.encode "a boom")) = some true := by
    decide +kernel
  have hbang : (Regex.ofText? "boom").map (·.matchesBytes (Text.encode "a bang")) = some false := by
    decide +kernel
  rw [hp] at hboom hbang
  refine ⟨p, hp, ?_⟩
  intro t inTime late
  have hearly : ∀ u : Turn, u.elapsed < 50 → ¬ t.Overdue u := by
    rintro u hu ⟨limit, hlimit, hle⟩
    cases hlimit
    exact absurd hle (Nat.not_le.mpr hu)
  have hearlier : ∀ u ∈ [(⟨0, .running, false⟩ : Turn)], t.GoesOn u :=
    List.forall_mem_singleton.mpr ⟨hearly _ (by decide), rfl, rfl⟩
  have hover : ¬ t.Overdue ⟨49, .exited (.code 1), true⟩ := hearly _ (by decide)
  have hone : (ExitStatus.code 1) ≠ .code 0 := by decide
  refine ⟨?_, ?_, fun v hv cause hanswer => ?_, ?_, by decide, fun stderr => ?_⟩
  · refine ((t.run_answers inTime _).2.2.1 .fails (by decide)).mpr ⟨_, _, _, _, rfl, hearlier,
      hover, rfl, Or.inr rfl, Or.inr ⟨p, _, rfl, rfl, ?_⟩⟩
    exact iff_of_true rfl ⟨hone, Option.some.inj hboom⟩
  · refine ((t.run_answers inTime _).2.2.1 .passes (by decide)).mpr ⟨_, _, _, _, rfl, hearlier,
      hover, rfl, Or.inl rfl, Or.inr ⟨p, _, rfl, rfl, ?_⟩⟩
    refine iff_of_false (by decide) fun hcrash => ?_
    exact absurd (hcrash.2.symm.trans (Option.some.inj hbang)) (by decide)
  · obtain ⟨_, _, _, _, _, _, _, _, _, ⟨hnone, _⟩ | ⟨_, _, _, hread, _⟩⟩ :=
      ((t.run_answers inTime _).2.2.1 v hv).mp hanswer
    · cases hnone
    · cases hread
  · exact (t.run_answers inTime ⟨.done, .panicked⟩).2.2.2.1.2 _ _ _ rfl hearlier hover (by decide)
  · obtain ⟨_, hunresolved, _, ⟨hkills, _⟩, hverdict⟩ := t.run_answers late ⟨.done, stderr⟩
    have hcourse : ∃ earlier turn later,
        late = earlier ++ turn :: later ∧ (∀ u ∈ earlier, u.Quiet) ∧ t.Overdue turn :=
      ⟨[⟨0, .running, false⟩], ⟨50, .exited (.code 1), false⟩, [], rfl,
        List.forall_mem_singleton.mpr ⟨rfl, rfl⟩, 50, rfl, Nat.le_refl 50⟩
    have hanswer := hunresolved.mpr hcourse
    exact ⟨hanswer, hkills (Or.inr hanswer), (hverdict (by decide)).mpr hcourse⟩

/-! ## A wait with a time limit -/

theorem pollInterval_pos (t : Target) : 0 < t.pollInterval :=
  Nat.lt_of_lt_of_le (by decide) t.le_pollInterval

theorem sliceAt_eq_some_iff {t : Target} {limit elapsed slice : Span}
    (ht : t.timeout = some limit) :
    t.sliceAt elapsed = some slice ↔
      elapsed < limit ∧ slice = min (limit - elapsed) t.pollInterval := by
  unfold sliceAt
  rw [ht]
  by_cases hlimit : limit ≤ elapsed
  · simp [hlimit]
  · simp [hlimit, Nat.lt_of_not_le hlimit, eq_comm]

/-- A slice is not empty, and lasts neither longer than the poll interval nor beyond the end of the
    time. -/
theorem sliceAt_bounds {t : Target} {limit elapsed slice : Span} (ht : t.timeout = some limit)
    (h : t.sliceAt elapsed = some slice) :
    elapsed < limit ∧ 0 < slice ∧ slice ≤ t.pollInterval ∧ slice ≤ limit - elapsed := by
  obtain ⟨hlt, rfl⟩ := (sliceAt_eq_some_iff ht).mp h
  have hpos := Nat.lt_min.mpr ⟨Nat.sub_pos_of_lt hlt, t.pollInterval_pos⟩
  exact ⟨hlt, hpos, Nat.min_le_right _ _, Nat.min_le_left _ _⟩

/-- The slices are those of the turns, one after the other. -/
theorem sliceAt_of_slices {t : Target} {turns : List Turn} {i : Nat} {slice : Span}
    (h : (t.wait turns).slices[i]? = some slice) :
    ∃ turn, turns[i]? = some turn ∧ t.sliceAt turn.elapsed = some slice := by
  induction turns generalizing i with
  | nil => cases h
  | cons turn rest ih =>
    obtain ⟨c, _, hwait⟩ | ⟨s, _, hs, hwait⟩ := t.wait_cons turn rest
    · rw [hwait] at h
      cases hs : t.sliceAt turn.elapsed with
      | none =>
        rw [hs] at h
        cases h
      | some s =>
        rw [hs] at h
        cases i with
        | zero => exact ⟨turn, rfl, hs.trans h⟩
        | succ i => cases h
    · rw [hwait] at h
      cases i with
      | zero => exact ⟨turn, rfl, hs.trans h⟩
      | succ i => exact ih h

/-- Later turns do not matter to a wait that is over. -/
theorem wait_append {t : Target} {turns : List Turn} (h : (t.wait turns).completion.isSome)
    (later : List Turn) : t.wait (turns ++ later) = t.wait turns := by
  induction turns with
  | nil => cases h
  | cons turn rest ih =>
    rw [List.cons_append]
    obtain ⟨c, hend, hwait⟩ | ⟨s, hend, hs, hwait⟩ := t.wait_cons turn rest
    · obtain ⟨c', hend', hwait'⟩ | ⟨_, hend', _⟩ := t.wait_cons turn (rest ++ later)
      · rw [hwait, hwait', Option.some.inj (hend'.symm.trans hend)]
      · rw [hend] at hend'
        cases hend'
    · obtain ⟨_, hend', _⟩ | ⟨s', _, hs', hwait'⟩ := t.wait_cons turn (rest ++ later)
      · rw [hend] at hend'
        cases hend'
      · rw [hwait] at h
        rw [hwait, hwait', ih h, Option.some.inj (hs'.symm.trans hs)]

/-- The clock from one turn to the next: it does not go back, and where the wait for a slice found
    the target running, at least that slice has passed. -/
def Advances (t : Target) (u v : Turn) : Prop :=
  u.elapsed ≤ v.elapsed ∧
    (u.slice = .running → ∀ slice, t.sliceAt u.elapsed = some slice → u.elapsed + slice ≤ v.elapsed)

theorem reach_after_slice {limit elapsed next p k : Nat} (h : limit ≤ elapsed + (k + 1) * p)
    (hnext : elapsed + min (limit - elapsed) p ≤ next) : limit ≤ next + k * p := by
  rw [Nat.succ_mul] at h
  omega

/-- Where `k` poll intervals reach to the end of the time, the wait is over after `k + 1` turns: a
    turn that does not end it takes a whole interval off, or all the time that is left. -/
theorem completion_of_intervals {t : Target} {limit : Span} (ht : t.timeout = some limit) {k : Nat}
    {turn : Turn} {rest : List Turn} (hclock : (turn :: rest).IsChain t.Advances)
    (hreach : limit ≤ turn.elapsed + k * t.pollInterval) (hlen : k ≤ rest.length) :
    (t.wait (turn :: rest)).completion.isSome := by
  induction k generalizing turn rest with
  | zero =>
    rw [Nat.zero_mul, Nat.add_zero] at hreach
    rw [completion_wait, List.findSome?_cons, endOf_of_overdue ⟨limit, ht, hreach⟩]
    rfl
  | succ k ih =>
    obtain ⟨c, _, hwait⟩ | ⟨slice, hend, hslice, hwait⟩ := t.wait_cons turn rest
    · rw [hwait]
      rfl
    · rw [hwait]
      have hpos := Nat.lt_of_lt_of_le k.succ_pos hlen
      obtain ⟨next, rest, rfl⟩ := List.exists_cons_of_length_pos hpos
      obtain ⟨⟨_, hnext⟩, hrest⟩ := List.isChain_cons_cons.mp hclock
      -- The target was still running after the slice, so the clock has moved by it.
      have hpassed := hnext (endOf_eq_none_iff.mp hend).2.1 slice hslice
      rw [((sliceAt_eq_some_iff ht).mp hslice).2] at hpassed
      exact ih hrest (reach_after_slice hreach hpassed) (Nat.le_of_succ_le_succ hlen)

/-- How many turns a wait takes at most: the poll intervals that reach to the end of the time, and
    the turn that finds it over. -/
def maxTurns (t : Target) (limit : Span) : Nat :=
  (limit + t.pollInterval - 1) / t.pollInterval + 1

theorem le_intervals (limit : Nat) {p : Nat} (hp : 0 < p) : limit ≤ (limit + p - 1) / p * p := by
  have hdiv := Nat.div_add_mod (limit + p - 1) p
  have hmod := Nat.mod_lt (limit + p - 1) hp
  rw [Nat.mul_comm] at hdiv
  omega

theorem completion_of_maxTurns {t : Target} {limit : Span} (ht : t.timeout = some limit)
    {turns : List Turn} (hclock : turns.IsChain t.Advances)
    (hlen : t.maxTurns limit ≤ turns.length) : (t.wait turns).completion.isSome := by
  have hpos := Nat.lt_of_lt_of_le (Nat.succ_pos _) hlen
  obtain ⟨turn, rest, rfl⟩ := List.exists_cons_of_length_pos hpos
  have hreach := Nat.le_trans (le_intervals limit t.pollInterval_pos)
    (Nat.le_add_left _ turn.elapsed)
  exact completion_of_intervals ht hclock hreach (Nat.le_of_succ_le_succ hlen)

/-- Turns beyond the largest number of turns are not looked at. -/
theorem wait_take_maxTurns {t : Target} {limit : Span} (ht : t.timeout = some limit)
    {turns : List Turn} (hclock : turns.IsChain t.Advances) :
    t.wait (turns.take (t.maxTurns limit)) = t.wait turns := by
  by_cases hlen : t.maxTurns limit ≤ turns.length
  · have hover := completion_of_maxTurns ht (hclock.take (t.maxTurns limit))
      (Nat.le_of_eq (List.length_take_of_le hlen).symm)
    rw [← wait_append hover (turns.drop (t.maxTurns limit)), List.take_append_drop]
  · rw [List.take_of_length_le (Nat.le_of_not_le hlen)]

/-! ## Settings -/

theorem adjust_pollInterval (t : Target) (a : Adjustment) :
    (t.adjust a).pollInterval = t.pollInterval ∨
    ∃ interval, a = .pollEvery interval ∧
      (t.adjust a).pollInterval = max interval (Span.ofMillis 1) := by
  cases a with
  | pollEvery interval => exact Or.inr ⟨interval, rfl, rfl⟩
  | arg | args | cwd | env | timeout | crashPattern => exact Or.inl rfl

/-- The poll interval is the one there is to begin with, or was set and is at least a millisecond.
    -/
theorem foldl_adjust_pollInterval (t : Target) (adjustments : List Adjustment) :
    (adjustments.foldl adjust t).pollInterval = t.pollInterval ∨
    ∃ interval, .pollEvery interval ∈ adjustments ∧
      (adjustments.foldl adjust t).pollInterval = max interval (Span.ofMillis 1) := by
  induction adjustments generalizing t with
  | nil => exact Or.inl rfl
  | cons a adjustments ih =>
    rw [List.foldl_cons]
    rcases ih (t.adjust a) with hkept | ⟨interval, hmem, hset⟩
    · rw [hkept]
      rcases t.adjust_pollInterval a with hsame | ⟨interval, rfl, hset⟩
      · exact Or.inl hsame
      · exact Or.inr ⟨interval, List.mem_cons_self, hset⟩
    · exact Or.inr ⟨interval, List.mem_cons_of_mem a hmem, hset⟩

/-- **A wait with a time limit ends.** Whatever was set, the poll interval is the default or at
    least a millisecond. Every slice that is asked for starts before the time is over, is not empty,
    and is at most the poll interval and the time that is left. On a clock on which at least a slice
    passes where a slice is waited for in vain, the wait is over after as many turns as poll
    intervals reach to the end of the time, and one more: it looks at no turn behind these. Without
    any time it times out before it has waited at all. -/
theorem wait_ends (program : String) (adjustments : List Adjustment) (limit : Span)
    (turns : List Turn) :
    let t := configure program adjustments
    let most := (limit + t.pollInterval - 1) / t.pollInterval + 1
    t.timeout = some limit → turns.IsChain t.Advances →
      (t.pollInterval = Span.ofMillis 10 ∨ ∃ interval, .pollEvery interval ∈ adjustments ∧
        t.pollInterval = max interval (Span.ofMillis 1)) ∧
      (∀ (i : Nat) (slice : Span), (t.wait turns).slices[i]? = some slice →
        ∃ turn : Turn, turns[i]? = some turn ∧ turn.elapsed < limit ∧ 0 < slice ∧
          slice ≤ t.pollInterval ∧ slice ≤ limit - turn.elapsed) ∧
      (t.wait (turns.take most) = t.wait turns ∧
        (most ≤ turns.length → (t.wait turns).completion.isSome)) ∧
      (limit = 0 → turns ≠ [] → t.wait turns = ⟨some .timedOut, [], 1⟩) := by
  intro t most ht hclock
  refine ⟨foldl_adjust_pollInterval _ adjustments, fun i slice hslice => ?_,
    ⟨wait_take_maxTurns ht hclock, completion_of_maxTurns ht hclock⟩, fun hzero hturns => ?_⟩
  · obtain ⟨turn, hturn, hat⟩ := sliceAt_of_slices hslice
    exact ⟨turn, hturn, sliceAt_bounds ht hat⟩
  · obtain ⟨turn, rest, rfl⟩ := List.exists_cons_of_ne_nil hturns
    have hover : t.Overdue turn := ⟨limit, ht, hzero ▸ Nat.zero_le _⟩
    rw [wait, sliceAt_eq_none_iff.mpr hover]

/-- An interval of nothing counts as a millisecond; the last slice is the half that is left. -/
theorem wait_ends_after_four :
    let t := configure "target" [.pollEvery 0, .arg "-x", .timeout (some 2500000)]
    let turns : List Turn := [⟨0, .running, false⟩, ⟨1000000, .running, false⟩,
      ⟨2000000, .running, false⟩, ⟨2600000, .running, true⟩]
    (t.timeout = some 2500000 ∧ turns.IsChain t.Advances) ∧
      (t.wait turns).completion.isSome ∧ (t.wait turns).slices = [1000000, 1000000, 500000] := by
  intro t turns
  have ht : t.timeout = some 2500000 := rfl
  have hpoll : t.pollInterval = 1000000 := rfl
  have hstep {u v : Turn} (h : u.elapsed + min (2500000 - u.elapsed) 1000000 ≤ v.elapsed) :
      t.Advances u v := by
    refine ⟨Nat.le_trans (Nat.le_add_right _ _) h, fun _ slice hslice => ?_⟩
    obtain ⟨_, rfl⟩ := (sliceAt_eq_some_iff ht).mp hslice
    exact hpoll ▸ h
  have hclock : turns.IsChain t.Advances := by
    simp only [turns, List.isChain_cons_cons]
    exact ⟨hstep (by decide), hstep (by decide), hstep (by decide), List.isChain_singleton _⟩
  have hend := wait_ends "target" [.pollEvery 0, .arg "-x", .timeout (some 2500000)] 2500000 turns
    ht hclock
  exact ⟨⟨ht, hclock⟩, hend.2.2.1.2 (by decide), by decide⟩

end Target

end DeltaDebug
