import DeltaDebug.Proofs.Pool.Agreement
import Mathlib.Data.Prod.Basic

/-
  Minimality of results. A search ends with a round whose chunks are single bytes and in which
  nothing fails. Its complements are then all deletions of one byte, and its chunks all bytes
  alone, so a result is minimal in that sense (`minimized_oneMinimal`), for every configuration and
  every order in which a pool may work. The same round, made in order, shows in the record of calls
  against any oracle, also a flaky one.
-/

namespace DeltaDebug

variable {σ : Type}

/-- No deletion of one byte fails and, if there are at least two bytes, none of them alone. -/
structure OneMinimal (f : Candidate → Answer) (c : Candidate) : Prop where
  deletion : ∀ i, i < c.length → f (c.eraseIdx i) ≠ .ok (some .fails)
  single : 2 ≤ c.length → ∀ b ∈ c, f [b] ≠ .ok (some .fails)

theorem oneMinimal_of_forall {f : Candidate → Answer} {c : Candidate}
    (hdel : ∀ d ∈ Partition.deletions c, f d ≠ .ok (some .fails))
    (hsingle : 2 ≤ c.length → ∀ d ∈ Partition.singles c, f d ≠ .ok (some .fails)) :
    OneMinimal f c := by
  refine ⟨fun i hi => hdel _ ?_, fun hlen b hb => hsingle hlen _ ?_⟩
  · exact List.mem_map.mpr ⟨i, List.mem_range.mpr hi, rfl⟩
  · exact List.mem_map.mpr ⟨b, hb, rfl⟩

/-- The candidate on which a round ends the search is minimal, if the scans of the round decide. -/
theorem oneMinimal_of_step_done {scan : Scan σ} {f : Candidate → Answer} (hd : scan.Decides f)
    {st : State} {s s' : Session σ} (h : step scan st s = (.ok .done, s')) :
    OneMinimal f st.candidate := by
  by_cases hne : st.candidate = []
  · rw [hne]
    exact ⟨nofun, fun h => absurd h (by simp)⟩
  · have hround := step_rounded scan st s
    rw [h] at hround
    obtain ⟨hparts, s1, hc, hs⟩ := hround.of_done hne
    refine oneMinimal_of_forall ?_ fun hlen => ?_
    · rw [← Partition.map_complement_finest st.candidate hparts]
      exact hd.of_none hc
    · rw [if_pos hlen] at hs
      rw [← Partition.map_chunk_finest st.candidate hparts]
      exact hd.of_none hs

theorem oneMinimal_of_minimizeWith {scan : Scan σ} {f : Candidate → Answer}
    (hd : scan.Decides f) {opts : Options} {o : Oracle σ} {input : Candidate}
    (hlen : 2 ≤ input.length) {s s' : Session σ} {r : Result}
    (h : minimizeWith scan opts o input s = (.ok r, s')) : OneMinimal f r.minimized := by
  obtain ⟨s1, s2, m, _, hsearch, rfl, _⟩ := minimizeWith_ok h
  rcases search_ok hsearch with ⟨hshort, _⟩ | ⟨_, ⟨st, hdescend, rfl⟩, _⟩
  · omega
  · obtain ⟨s0, _, hstep⟩ := descend_ended scan Nat.two_pos s1 (P := fun _ _ => True)
      (fun _ _ _ _ _ _ _ => trivial) trivial hdescend
    exact oneMinimal_of_step_done hd hstep

/-- **Results are minimal.** Against a deterministic oracle, with any options and any legal mix of
    the moves of a pool's workers, no deletion of one byte of a result fails, and no byte of a
    longer result alone.

    Against any oracle, a round in order that ends the search on a candidate that is not empty made
    one inquiry for each deletion of a byte, in order, then one for each byte alone if there are at
    least two; and none of them saw a failure. -/
theorem minimized_oneMinimal (o : Oracle σ) :
    (∀ (f : Candidate → Answer) (opts : Options) (input : Candidate) (s s' : Session σ)
      (r : Result), o.AnswersBy f → 2 ≤ input.length →
      (minimize opts o input s = (.ok r, s') → OneMinimal f r.minimized) ∧
      ∀ schedule : Pool.Schedule σ opts.doubleCheck, (schedule.Legal fun c a => a = f c) →
        minimizeWith (Pool.scanBy o schedule) opts o input { s with tally := {} } = (.ok r, s') →
        OneMinimal f r.minimized) ∧
    (∀ (confirm : Bool) (st : State) (s s' : Session σ), st.candidate ≠ [] →
      step (scanInOrder o confirm) st s = (.ok .done, s') →
      ∃ qs : List (Inquiry confirm), s'.calls = s.calls ++ qs.flatMap Inquiry.calls ∧
        qs.map Inquiry.candidate = Partition.deletions st.candidate ++
          (if 2 ≤ st.candidate.length then Partition.singles st.candidate else []) ∧
        ∀ q ∈ qs, ¬ q.Fails) := by
  refine ⟨?_, ?_⟩
  · intro f opts input s s' r hf hlen
    refine ⟨fun h => ?_, fun schedule legal h => ?_⟩
    · exact oneMinimal_of_minimizeWith (opts.decides_scan hf) hlen h
    · exact oneMinimal_of_minimizeWith (Pool.decides_scanBy hf schedule legal) hlen h
  · intro confirm st s s' hne h
    obtain ⟨qs, hrecorded, hinquired⟩ := step_inquired o confirm st s
    rw [h] at hrecorded hinquired
    exact ⟨qs, hrecorded.calls, hinquired.ended rfl hne⟩

/-- A search in order and one by a pool, and the round that ends them. -/
theorem minimized_oneMinimal_failsOn :
    (∃ r s', minimize {} (Oracle.ofFunction (failsOn [99, 100])) [97, 99, 98, 100]
        (Session.start ()) = (.ok r, s') ∧
      r.minimized = [99, 100] ∧ OneMinimal (failsOn [99, 100]) r.minimized) ∧
    (∃ (schedule : Pool.Schedule Unit false) (r : Result) (s' : Session Unit),
      minimizeWith (Pool.scanBy (Oracle.ofFunction (failsOn [99, 100])) schedule) ⟨4, false, false⟩
        (Oracle.ofFunction (failsOn [99, 100])) [97, 99, 98, 100] (Session.start ()) =
        (.ok r, s') ∧ OneMinimal (failsOn [99, 100]) r.minimized) ∧
    ∃ (s' : Session Unit) (qs : List (Inquiry true)),
      step (scanInOrder (Oracle.ofFunction (failsOn [99, 100])) true) ⟨[99, 100], 2⟩
        (Session.start ()) = (.ok .done, s') ∧
      qs.map Inquiry.candidate = [[100], [99], [99], [100]] ∧ ∀ q ∈ qs, ¬ q.Fails := by
  have hf := Oracle.answersBy_ofFunction (failsOn [99, 100])
  have hlen : 2 ≤ ([97, 99, 98, 100] : Candidate).length := by decide
  have hseq : (minimize {} (Oracle.ofFunction (failsOn [99, 100])) [97, 99, 98, 100]
      (Session.start ())).1 = .ok ⟨[99, 100], 4, 2, 11, 0, 2, 0, 1, 0⟩ := by
    cbv
  refine ⟨?_, ?_, ?_⟩
  · have h := Prod.fst_eq_iff.mp hseq
    exact ⟨_, _, h, rfl, ((minimized_oneMinimal _).1 _ _ _ _ _ _ hf hlen).1 h⟩
  · obtain ⟨schedule, legal⟩ := Pool.exists_legal Unit false (failsOn [99, 100])
    have hsame := minimizeWith_sameOutcome hf
      ((Pool.decides_scanBy hf schedule legal).agree (decides_scanInOrder hf false))
      (Pool.keepsProgress_scanBy _ schedule) (keepsProgress_scanInOrder _ false) ⟨4, false, false⟩
      [97, 99, 98, 100] (s := Session.start ()) (t := Session.start ()) rfl
    obtain ⟨r, hr, _⟩ := (hseq ▸ hsame).exists_ok
    have h := Prod.fst_eq_iff.mp hr
    exact ⟨schedule, r, _, h, ((minimized_oneMinimal _).1 _ ⟨4, false, false⟩ _ (Session.start ())
      _ _ hf hlen).2 schedule legal h⟩
  · have hdone : (step (scanInOrder (Oracle.ofFunction (failsOn [99, 100])) true) ⟨[99, 100], 2⟩
        (Session.start ())).1 = .ok .done := by
      cbv
    have h := Prod.fst_eq_iff.mp hdone
    obtain ⟨qs, _, hmap, hnone⟩ := (minimized_oneMinimal _).2 true _ _ _ (by decide) h
    exact ⟨_, qs, h, hmap, hnone⟩

end DeltaDebug
