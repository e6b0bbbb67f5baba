import DeltaDebug.Proofs.SublistMinimality
import Mathlib.Data.List.Infix

/-
  Needles. A target may fail because of some bytes, wherever they are: on all candidates that
  contain them in one piece, or on all that contain them in their order, with other bytes in
  between. Of an input with such a needle the needle is left, and nothing else (`needle_isolated`).

  A byte that comes between the bytes of a needle takes it away if it has to be in one piece, so the
  argument cannot be that adding bytes never cures a failure. What both cases have in common is that
  a candidate that contains the needle and more can lose one byte and still contain it
  (`Containment.Holds.exists_eraseIdx`). A minimal candidate cannot, so it is the needle.

  The oracle need not be deterministic: it fails on the candidates with the needle and on no others
  (`Oracle.Detects`), and what else it answers may change from call to call.
-/

namespace DeltaDebug

variable {σ : Type}

/-! ## Containing a needle -/

/-- The two ways to contain a needle. -/
inductive Containment where
  /-- In one piece. -/
  | contiguous
  /-- In its order, with other bytes in between. -/
  | scattered
deriving DecidableEq

namespace Containment

variable {k : Containment} {w c : Candidate}

/-- The candidate contains the needle. -/
def Holds : Containment → Candidate → Candidate → Prop
  | .contiguous, w, c => w <:+: c
  | .scattered, w, c => w.Sublist c

instance (k : Containment) (w c : Candidate) : Decidable (k.Holds w c) :=
  match k with
  | .contiguous => inferInstanceAs (Decidable (w <:+: c))
  | .scattered => inferInstanceAs (Decidable (w.Sublist c))

/-- What is around a needle in one piece can go: the first byte, or the last. -/
theorem infix_eraseIdx_of_ne (h : w <:+: c) (hne : c ≠ w) :
    ∃ i, i < c.length ∧ w <:+: c.eraseIdx i := by
  obtain ⟨before, after, rfl⟩ := h
  cases before with
  | cons b before => exact ⟨0, Nat.zero_lt_succ _, before, after, rfl⟩
  | nil =>
    rcases List.eq_nil_or_concat after with rfl | ⟨after, b, rfl⟩
    · exact absurd (List.append_nil w) hne
    · refine ⟨(w ++ after).length, by simp, [], after, ?_⟩
      rw [List.nil_append, List.concat_eq_append, ← List.append_assoc,
        List.eraseIdx_append_of_length_le (Nat.le_refl _)]
      simp

theorem Holds.exists_eraseIdx (h : k.Holds w c) (hne : c ≠ w) :
    ∃ i, i < c.length ∧ k.Holds w (c.eraseIdx i) := by
  cases k with
  | contiguous => exact infix_eraseIdx_of_ne h hne
  | scattered => exact sublist_eraseIdx_of_ne h (Ne.symm hne)

/-- The answers of a target that fails on the candidates with the needle and passes all others. -/
def answers (k : Containment) (w c : Candidate) : Answer :=
  .ok (some (if k.Holds w c then .fails else .passes))

theorem answers_eq_fails : k.answers w c = .ok (some .fails) ↔ k.Holds w c := by
  unfold answers
  split
  case isTrue h => exact iff_of_true rfl h
  case isFalse h => exact iff_of_false nofun h

theorem neverErrs_answers (k : Containment) (w : Candidate) : NeverErrs (k.answers w) := nofun

/-- A minimal candidate with the needle is the needle. -/
theorem eq_of_oneMinimal (hmin : OneMinimal (k.answers w) c) (h : k.Holds w c) : c = w := by
  by_contra hne
  obtain ⟨i, hi, herased⟩ := h.exists_eraseIdx hne
  exact hmin.deletion i hi (answers_eq_fails.mpr herased)

end Containment

/-! ## Detecting oracles -/

/-- The oracle fails on the candidates of which `P` holds and on no others, and it never errs. -/
def Oracle.Detects (o : Oracle σ) (P : Candidate → Prop) : Prop :=
  ∀ c a, o.Gives c a → (a = .ok (some .fails) ↔ P c) ∧ ∀ e, a ≠ .error e

theorem Oracle.Detects.answersLike {o : Oracle σ} {k : Containment} {w : Candidate}
    (ho : o.Detects (k.Holds w)) : o.AnswersLike (k.answers w) := by
  intro c a hgives
  obtain ⟨hfails, hok⟩ := ho c a hgives
  refine ⟨hfails.trans Containment.answers_eq_fails.symm, fun e => ?_⟩
  exact iff_of_false (hok e) (k.neverErrs_answers w c e)

/-! ## Isolation -/

/-- The search has a result, and that is the needle. -/
def Isolates (w : Candidate) (x : Except SearchError Result × Session σ) : Prop :=
  ∃ r s', x = (.ok r, s') ∧ r.minimized = w

theorem isolates_of_decides {scan : Scan σ} {k : Containment} {w : Candidate}
    (hd : scan.Decides (k.answers w)) {o : Oracle σ} (ho : o.Detects (k.Holds w)) {opts : Options}
    {input : Candidate} (hlen : 2 ≤ input.length) (hinput : k.Holds w input) (s : Session σ) :
    Isolates w (minimizeWith scan opts o input s) := by
  have hfails := Containment.answers_eq_fails.mpr hinput
  obtain ⟨r, s', h⟩ := minimizeWith_exists_ok_of_akin hd (k.neverErrs_answers w) ho.answersLike
    (fun _ => hfails) s
  have hmin := oneMinimal_of_minimizeWith hd hlen h
  have hholds := Containment.answers_eq_fails.mp (fails_of_minimizeWith hd hfails h)
  exact ⟨r, s', h, Containment.eq_of_oneMinimal hmin hholds⟩

/-- **Needles are isolated.** If a target fails on the candidates that contain a needle, in one
    piece or scattered, and on no others, and the input of at least two bytes contains it, then the
    search comes to a result, which is the needle: with any options, and in a pool under any mix of
    the workers' moves with answers that the oracle may give. -/
theorem needle_isolated (k : Containment) (w : Candidate) (o : Oracle σ)
    (ho : o.Detects (k.Holds w)) (input : Candidate) (hlen : 2 ≤ input.length)
    (hinput : k.Holds w input) (opts : Options) (s : Session σ) :
    Isolates w (minimize opts o input s) ∧
    ∀ schedule : Pool.Schedule σ opts.doubleCheck, schedule.Legal o.Gives →
      Isolates w (minimizeWith (Pool.scanBy o schedule) opts o input { s with tally := {} }) := by
  have hakin := ho.answersLike
  refine ⟨?_, fun schedule legal => ?_⟩
  · exact isolates_of_decides (opts.decides_scan_of_akin hakin) ho hlen hinput _
  · exact isolates_of_decides (Pool.decides_scanBy_of_akin hakin hakin schedule legal) ho hlen
      hinput _

/-- An oracle that is not deterministic: where `P` does not hold, it goes back and forth between two
    verdicts. -/
def Oracle.wavering (P : Candidate → Prop) [DecidablePred P] : Oracle Bool where
  call _ c turn :=
    let other := if turn then Verdict.passes else .unresolved
    (⟨.ok (some (if P c then .fails else other)), []⟩, !turn)

theorem Oracle.detects_wavering (P : Candidate → Prop) [DecidablePred P] :
    (Oracle.wavering P).Detects P := by
  rintro c _ ⟨turn, rfl⟩
  refine ⟨?_, nofun⟩
  by_cases h : P c
  · simp [Oracle.wavering, h]
  · cases turn <;> simp [Oracle.wavering, h]

/-- A needle with a repeated byte is isolated where it overlaps with itself, and the empty needle in
    any input, by a pool too. -/
theorem needle_isolated_wavering :
    Isolates [97, 97] (minimize ⟨1, true, true⟩
      (Oracle.wavering (Containment.contiguous.Holds [97, 97])) [97, 97, 97, 98, 97, 97]
      (Session.start true)) ∧
    ∃ schedule : Pool.Schedule Bool false,
      schedule.Legal (Oracle.wavering (Containment.scattered.Holds [])).Gives ∧
      Isolates [] (minimizeWith
        (Pool.scanBy (Oracle.wavering (Containment.scattered.Holds [])) schedule) ⟨4, false, true⟩
        (Oracle.wavering (Containment.scattered.Holds [])) [97, 98] (Session.start true)) := by
  obtain ⟨schedule, legal⟩ := Pool.exists_legal Bool false (Containment.scattered.answers [])
  have hgives : schedule.Legal (Oracle.wavering (Containment.scattered.Holds [])).Gives := by
    intro count build s
    refine (legal count build s).mono fun i a ha => ⟨true, ?_⟩
    rw [ha]
    rfl
  refine ⟨?_, schedule, hgives, ?_⟩
  · exact (needle_isolated .contiguous [97, 97] _ (Oracle.detects_wavering _)
      [97, 97, 97, 98, 97, 97] (by decide) (by decide) ⟨1, true, true⟩ (Session.start true)).1
  · exact (needle_isolated .scattered [] _ (Oracle.detects_wavering _) [97, 98] (by decide)
      (by decide) ⟨4, false, true⟩ (Session.start true)).2 schedule hgives

end DeltaDebug
