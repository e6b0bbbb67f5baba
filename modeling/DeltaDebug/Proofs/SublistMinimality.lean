import DeltaDebug.Proofs.Adoption
import DeltaDebug.Proofs.Completion
import DeltaDebug.Proofs.Minimality

/-
  Minimality among all sublists. A search tries contiguous chunks and their complements only. But
  every proper sublist of a candidate is a sublist of what is left when one byte is deleted
  (`sublist_eraseIdx_of_ne`). So if bytes that are added never cure a failure, a result of which no
  deletion of one byte fails has no smaller failing sublist at all.
-/

namespace DeltaDebug

variable {σ : Type} {f : Candidate → Answer}

/-- Adding bytes to a failing candidate, anywhere, leaves it failing. -/
def UpwardClosed (f : Candidate → Answer) : Prop :=
  ∀ c d : Candidate, c.Sublist d → f c = .ok (some .fails) → f d = .ok (some .fails)

/-- No proper sublist fails. -/
def SublistMinimal (f : Candidate → Answer) (c : Candidate) : Prop :=
  ∀ d : Candidate, d.Sublist c → d ≠ c → f d ≠ .ok (some .fails)

/-- A proper sublist lacks one of the bytes. -/
theorem sublist_eraseIdx_of_ne {c d : Candidate} (h : d.Sublist c) (hne : d ≠ c) :
    ∃ i, i < c.length ∧ d.Sublist (c.eraseIdx i) := by
  induction h with
  | slnil => exact absurd rfl hne
  | cons b hsub _ => exact ⟨0, Nat.zero_lt_succ _, hsub⟩
  | cons_cons b _ ih =>
    obtain ⟨i, hi, hsub⟩ := ih fun he => hne (congrArg (List.cons b) he)
    exact ⟨i + 1, Nat.succ_lt_succ hi, hsub.cons_cons b⟩

theorem OneMinimal.sublistMinimal {c : Candidate} (h : OneMinimal f c) (hf : UpwardClosed f) :
    SublistMinimal f c := by
  intro d hsub hne hfails
  obtain ⟨i, hi, hd⟩ := sublist_eraseIdx_of_ne hsub hne
  exact h.deletion i hi (hf d (c.eraseIdx i) hd hfails)

/-- What a result has if adding bytes never cures a failure: it comes from the input, it fails
    if the input does, and nothing smaller fails. -/
structure Result.Least (f : Candidate → Answer) (input : Candidate) (r : Result) : Prop where
  sublist : r.minimized.Sublist input
  fails_iff : f r.minimized = .ok (some .fails) ↔ f input = .ok (some .fails)
  minimal : SublistMinimal f r.minimized

theorem least_of_minimizeWith {scan : Scan σ} (hd : scan.Decides f) (hf : NeverErrs f)
    (hup : UpwardClosed f) {o : Oracle σ} (ho : o.AnswersBy f) {opts : Options}
    {input : Candidate} (hlen : 2 ≤ input.length)
    (hinput : opts.verifyInput = true → f input = .ok (some .fails)) (s : Session σ) :
    ∃ r s', minimizeWith scan opts o input s = (.ok r, s') ∧ r.Least f input := by
  obtain ⟨r, s', h⟩ := minimizeWith_exists_ok hd hf ho hinput s
  have hsub := (minimized_of_minimizeWith h).1
  refine ⟨r, s', h, hsub, ⟨hup _ _ hsub, fun hfails => fails_of_minimizeWith hd hfails h⟩, ?_⟩
  exact (oneMinimal_of_minimizeWith hd hlen h).sublistMinimal hup

/-- **Results are minimal among all sublists** if adding bytes to a candidate never cures a failure.
    Against a deterministic oracle of that kind that never errs, an input of at least two bytes has
    a result, with any options and any legal mix of the moves of a pool's workers, unless it is
    probed first and does not fail; and no proper sublist of the result fails. -/
theorem minimized_sublistMinimal (o : Oracle σ) (f : Candidate → Answer) (ho : o.AnswersBy f)
    (hf : NeverErrs f) (hup : UpwardClosed f) (opts : Options) (input : Candidate)
    (hlen : 2 ≤ input.length) (hinput : opts.verifyInput = true → f input = .ok (some .fails))
    (s : Session σ) :
    (∃ r s', minimize opts o input s = (.ok r, s') ∧ r.Least f input) ∧
    ∀ schedule : Pool.Schedule σ opts.doubleCheck, (schedule.Legal fun c a => a = f c) →
      ∃ r s', minimizeWith (Pool.scanBy o schedule) opts o input { s with tally := {} } =
        (.ok r, s') ∧ r.Least f input := by
  refine ⟨?_, fun schedule legal => ?_⟩
  · exact least_of_minimizeWith (opts.decides_scan ho) hf hup ho hlen hinput _
  · exact least_of_minimizeWith (Pool.decides_scanBy ho schedule legal) hf hup ho hlen hinput _

theorem neverErrs_failsOn (w : Candidate) : NeverErrs (failsOn w) := nofun

theorem failsOn_eq_fails {w c : Candidate} : failsOn w c = .ok (some .fails) ↔ w.Sublist c := by
  unfold failsOn
  rw [← List.isSublist_iff_sublist]
  cases w.isSublist c <;> simp

theorem upwardClosed_failsOn (w : Candidate) : UpwardClosed (failsOn w) := by
  intro c d hsub hfails
  exact failsOn_eq_fails.mpr ((failsOn_eq_fails.mp hfails).trans hsub)

/-- What is left of an input that fails because of some bytes is these bytes. -/
theorem Result.Least.eq_of_failsOn {w input : Candidate} {r : Result}
    (h : r.Least (failsOn w) input) (hinput : w.Sublist input) : r.minimized = w := by
  have hsub := failsOn_eq_fails.mp (h.fails_iff.mpr (failsOn_eq_fails.mpr hinput))
  by_contra hne
  exact h.minimal w hsub (Ne.symm hne) (failsOn_eq_fails.mpr (List.Sublist.refl w))

/-- Of five bytes that fail because of two of them only these two are left, by a search in order and
    by a pool. -/
theorem minimized_sublistMinimal_failsOn :
    (∃ r s', minimize ⟨1, true, true⟩ (Oracle.ofFunction (failsOn [98, 100]))
        [97, 98, 99, 100, 101] (Session.start ()) = (.ok r, s') ∧
      SublistMinimal (failsOn [98, 100]) r.minimized ∧ r.minimized = [98, 100]) ∧
    ∃ (schedule : Pool.Schedule Unit true) (r : Result) (s' : Session Unit),
      minimizeWith (Pool.scanBy (Oracle.ofFunction (failsOn [98, 100])) schedule) ⟨4, true, true⟩
        (Oracle.ofFunction (failsOn [98, 100])) [97, 98, 99, 100, 101] (Session.start ()) =
        (.ok r, s') ∧
      SublistMinimal (failsOn [98, 100]) r.minimized ∧ r.minimized = [98, 100] := by
  have ho := Oracle.answersBy_ofFunction (failsOn [98, 100])
  have hsub : ([98, 100] : Candidate).Sublist [97, 98, 99, 100, 101] := by decide
  obtain ⟨schedule, legal⟩ := Pool.exists_legal Unit true (failsOn [98, 100])
  have hall := fun jobs => minimized_sublistMinimal _ _ ho (neverErrs_failsOn _)
    (upwardClosed_failsOn _) ⟨jobs, true, true⟩ [97, 98, 99, 100, 101] (by decide)
    (fun _ => failsOn_eq_fails.mpr hsub) (Session.start ())
  obtain ⟨r, s', h, hleast⟩ := (hall 1).1
  obtain ⟨r', t', h', hleast'⟩ := (hall 4).2 schedule legal
  exact ⟨⟨r, s', h, hleast.minimal, hleast.eq_of_failsOn hsub⟩,
    schedule, r', t', h', hleast'.minimal, hleast'.eq_of_failsOn hsub⟩

end DeltaDebug
