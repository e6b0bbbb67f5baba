import DeltaDebug.Search.Interleaving
import DeltaDebug.Proofs.Inquiry

/-
  The board of a pool, under every order of moves. `play_cases` says all that a move can do: it
  changes one worker that is not done, and only publishing lowers the lowest failing index.

  `Board.Sound` is the invariant. A worker that is done either came to what the answers to its own
  calls amount to (`Concluded`), or gave up because an index below it is known to fail; the lowest
  failing index on the board belongs to a worker that is done and failed, and no worker that is
  done and failed has an index below it. Every allowed move keeps it (`Sound.play`), so every board
  that a list of allowed moves leads to has it (`Sound.playAll`).

  Which answers are allowed is a parameter, so nothing here asks the oracle to be deterministic.
-/

namespace DeltaDebug.Pool

variable {count : Nat} {confirm : Bool}

/-! ## The lowest failing index -/

theorem superseded_iff {lowest : Option (Fin count)} {i : Fin count} :
    superseded lowest i = true ↔ ∃ k, lowest = some k ∧ k < i := by
  unfold superseded
  cases lowest <;> simp

/-- A failure at `i` leaves the lower of `i` and the index known before. -/
theorem lower_fails (lowest : Option (Fin count)) (i : Fin count) {p : Probe}
    (hp : p.fails = true) :
    ∃ k, lower lowest i (.ok p) = some k ∧ k ≤ i ∧ (k = i ∨ lowest = some k) ∧
      ∀ j, lowest = some j → k ≤ j := by
  simp only [lower, hp, if_true]
  cases lowest with
  | none => exact ⟨i, rfl, Fin.le_refl i, Or.inl rfl, by simp⟩
  | some j =>
    refine ⟨_, rfl, ?_⟩
    split
    case isTrue hlt => exact ⟨Fin.le_refl i, Or.inl rfl, fun _ h => by cases h; omega⟩
    case isFalse hge => exact ⟨by omega, Or.inr rfl, fun _ h => by cases h; omega⟩

/-- An index that is superseded stays so. -/
theorem superseded_lower {lowest : Option (Fin count)} {i j : Fin count} {p : Probe}
    (hp : p.fails = true) (h : superseded lowest j = true) :
    superseded (lower lowest i (.ok p)) j = true := by
  obtain ⟨k, hk, hkj⟩ := superseded_iff.mp h
  obtain ⟨l, hl, _, _, hle⟩ := lower_fails lowest i hp
  have := hle k hk
  exact superseded_iff.mpr ⟨l, hl, by omega⟩

/-! ## Workers -/

/-- The finding follows from answers that may be given. -/
def Concluded (confirm : Bool) (may : Answer → Prop) (r : Except OracleError Probe) : Prop :=
  ∃ q : Inquiry confirm, (∀ call ∈ q.calls, may call.2) ∧ q.finding = r

/-- What holds of a worker at any time. Only a worker that is `overtaken`, because an index below
    is known to fail, may give up. -/
def Worker.Sound (confirm : Bool) (may : Answer → Prop) (overtaken : Prop) : Worker → Prop
  | .idle | .calling => True
  | .confirming => confirm = true ∧ may (.ok (some .fails))
  | .failed p => p.fails = true ∧ Concluded confirm may (.ok p)
  | .done r => Concluded confirm may r ∨ (overtaken ∧ ∃ n, r = .ok (.abandoned n))

theorem Worker.Sound.mono {may : Answer → Prop} {overtaken overtaken' : Prop} {w : Worker}
    (h : w.Sound confirm may overtaken) (hle : overtaken → overtaken') :
    w.Sound confirm may overtaken' := by
  cases w with
  | done r => exact h.imp id fun ⟨ho, hn⟩ => ⟨hle ho, hn⟩
  | _ => exact h

/-- The finding after one call that asks for no second. -/
theorem concluded_once {may : Answer → Prop} {a : Answer} (ha : may a)
    (hs : (none : Option Answer).isSome ↔ confirm = true ∧ a = .ok (some .fails)) :
    Concluded confirm may (Inquiry.finding ⟨[], a, none, hs⟩) :=
  ⟨_, Inquiry.forall_mem_calls.mpr ⟨ha, by simp⟩, rfl⟩

/-- The finding after a failure and a second call. -/
theorem concluded_twice {may : Answer → Prop} {a : Answer} (hfails : may (.ok (some .fails)))
    (ha : may a)
    (hs : (some a).isSome ↔
      confirm = true ∧ (Except.ok (some .fails) : Answer) = .ok (some .fails)) :
    Concluded confirm may (Inquiry.finding ⟨[], .ok (some .fails), some a, hs⟩) :=
  ⟨_, Inquiry.forall_mem_calls.mpr ⟨hfails, fun _ hb => by cases hb; exact ha⟩, rfl⟩

theorem sound_of_calling {may : Answer → Prop} {overtaken : Prop} {w : Worker} {a : Answer}
    (ha : may a) (h : Board.afterAnswer confirm .calling a = some w) :
    w.Sound confirm may overtaken := by
  rcases a with e | _ | v
  · cases h
    exact Or.inl (concluded_once ha (by simp))
  · cases h
    exact Or.inl (concluded_once ha (by simp))
  · cases v with
    | passes => cases h; exact Or.inl (concluded_once ha (by simp))
    | unresolved => cases h; exact Or.inl (concluded_once ha (by simp))
    | fails =>
      cases confirm with
      | true => cases h; exact ⟨rfl, ha⟩
      | false => cases h; exact ⟨rfl, concluded_once ha (by simp)⟩

theorem sound_of_confirming {may : Answer → Prop} {overtaken : Prop} {w : Worker} {a : Answer}
    (hw : Worker.confirming.Sound confirm may overtaken) (ha : may a)
    (h : Board.afterAnswer confirm .confirming a = some w) : w.Sound confirm may overtaken := by
  obtain ⟨rfl, hfails⟩ := hw
  rcases a with e | _ | v
  · cases h
    exact Or.inl (concluded_twice hfails ha (by simp))
  · cases h
    exact Or.inl (concluded_twice hfails ha (by simp))
  · cases v with
    | passes => cases h; exact Or.inl (concluded_twice hfails ha (by simp))
    | unresolved => cases h; exact Or.inl (concluded_twice hfails ha (by simp))
    | fails => cases h; exact ⟨rfl, concluded_twice hfails ha (by simp)⟩

/-- A worker keeps what holds of it when an allowed answer comes in. -/
theorem Worker.Sound.afterAnswer {may : Answer → Prop} {overtaken : Prop} {w w' : Worker}
    {a : Answer} (hw : w.Sound confirm may overtaken)
    (ha : may a ∨ (a = .ok none ∧ overtaken)) (h : Board.afterAnswer confirm w a = some w') :
    w'.Sound confirm may overtaken := by
  cases w with
  | calling =>
    rcases ha with ha | ⟨rfl, ho⟩
    · exact sound_of_calling ha h
    · cases h
      exact Or.inr ⟨ho, 0, rfl⟩
  | confirming =>
    rcases ha with ha | ⟨rfl, ho⟩
    · exact sound_of_confirming hw ha h
    · cases h
      exact Or.inr ⟨ho, 1, rfl⟩
  | idle => cases h
  | failed p => cases h
  | done r => cases h

/-- A failure is published before its worker is done: no answer leads there at once. -/
theorem afterAnswer_ne_done_fails {w : Worker} {a : Answer} {p : Probe}
    (h : Board.afterAnswer confirm w a = some (.done (.ok p))) : p.fails = false := by
  cases w with
  | calling =>
    rcases a with e | _ | v
    · cases h
    · cases h; rfl
    · cases v <;> cases confirm <;> cases h <;> rfl
  | confirming =>
    rcases a with e | _ | v
    · cases h
    · cases h; rfl
    · cases v <;> cases h <;> rfl
  | idle => cases h
  | failed q => cases h
  | done r => cases h

/-! ## Moves -/

namespace Board

variable {b b' : Board count} {m : Move count}

@[simp] theorem setWorker_self (b : Board count) (i : Fin count) (w : Worker) :
    (b.setWorker i w).worker i = w := by
  simp [setWorker]

theorem setWorker_ne (b : Board count) {i j : Fin count} (w : Worker) (h : j ≠ i) :
    (b.setWorker i w).worker j = b.worker j := by
  simp [setWorker, h]

/-- All that a move can do. -/
theorem play_cases (h : b.play confirm m = some b') :
    (∃ i, m = .start i ∧ b.worker i = .idle ∧
      b' = b.setWorker i
        (if superseded b.lowest i then .done (.ok (.abandoned 0)) else .calling)) ∨
    (∃ i a w, m = .answer i a ∧ afterAnswer confirm (b.worker i) a = some w ∧
      b' = { b.setWorker i w with calls := (i, a) :: b.calls }) ∨
    (∃ i p, m = .publish i ∧ b.worker i = .failed p ∧
      b' = { b.setWorker i (.done (.ok p)) with lowest := lower b.lowest i (.ok p) }) := by
  cases m with
  | start i =>
    simp only [play] at h
    split at h
    case h_1 hw => exact Or.inl ⟨i, rfl, hw, (Option.some.inj h).symm⟩
    case h_2 => cases h
  | answer i a =>
    simp only [play, Option.map_eq_some_iff] at h
    obtain ⟨w, hw, rfl⟩ := h
    exact Or.inr (Or.inl ⟨i, a, w, rfl, hw, rfl⟩)
  | publish i =>
    simp only [play] at h
    split at h
    case h_1 p hw => exact Or.inr (Or.inr ⟨i, p, rfl, hw, (Option.some.inj h).symm⟩)
    case h_2 => cases h

/-- What holds of the board at any time. -/
structure Sound (confirm : Bool) (may : Fin count → Answer → Prop) (b : Board count) : Prop where
  workers : ∀ i, (b.worker i).Sound confirm (may i) (superseded b.lowest i = true)
  lowest_fails : ∀ k, b.lowest = some k → ∃ p, b.worker k = .done (.ok p) ∧ p.fails = true
  lowest_le : ∀ i p, b.worker i = .done (.ok p) → p.fails = true → ∃ k, b.lowest = some k ∧ k ≤ i

variable {may : Fin count → Answer → Prop}

theorem sound_initial : (initial : Board count).Sound confirm may :=
  ⟨fun _ => trivial, nofun, nofun⟩

/-- A move that leaves the lowest failing index alone keeps the invariant, if the worker that moves
    is still sound and does not end with a failure. -/
theorem Sound.setWorker (hb : b.Sound confirm may) {i : Fin count} {w : Worker}
    (hdone : ∀ r, b.worker i ≠ .done r)
    (hw : w.Sound confirm (may i) (superseded b.lowest i = true))
    (hfails : ∀ p, w = .done (.ok p) → p.fails = false) :
    (b.setWorker i w).Sound confirm may := by
  refine ⟨fun j => ?_, fun k hk => ?_, fun j p hj hp => ?_⟩
  · by_cases hji : j = i
    · subst hji
      rw [setWorker_self]
      exact hw
    · rw [b.setWorker_ne w hji]
      exact hb.workers j
  · obtain ⟨p, hkp, hp⟩ := hb.lowest_fails k hk
    have hki : k ≠ i := fun he => hdone _ (he ▸ hkp)
    exact ⟨p, (b.setWorker_ne w hki).trans hkp, hp⟩
  · by_cases hji : j = i
    · subst hji
      rw [setWorker_self] at hj
      rw [hfails p hj] at hp
      cases hp
    · rw [b.setWorker_ne w hji] at hj
      exact hb.lowest_le j p hj hp

theorem Sound.publish (hb : b.Sound confirm may) {i : Fin count} {p : Probe}
    (hi : b.worker i = .failed p) :
    Sound confirm may
      { b.setWorker i (.done (.ok p)) with lowest := lower b.lowest i (.ok p) } := by
  have hsound := hb.workers i
  rw [hi] at hsound
  obtain ⟨hp, hconcluded⟩ := hsound
  obtain ⟨l, hl, hli, hor, hle⟩ := lower_fails b.lowest i hp
  refine ⟨fun j => ?_, fun k hk => ?_, fun j q hj hq => ?_⟩
  · by_cases hji : j = i
    · subst hji
      rw [setWorker_self]
      exact Or.inl hconcluded
    · have hj := (hb.workers j).mono (superseded_lower (i := i) hp)
      rw [← b.setWorker_ne (.done (.ok p)) hji] at hj
      exact hj
  · rw [hl] at hk
    cases hk
    rcases hor with rfl | hlow
    · exact ⟨p, b.setWorker_self _ _, hp⟩
    · obtain ⟨q, hlq, hq⟩ := hb.lowest_fails l hlow
      have hne : l ≠ i := by rintro rfl; rw [hi] at hlq; cases hlq
      exact ⟨q, (b.setWorker_ne _ hne).trans hlq, hq⟩
  · by_cases hji : j = i
    · exact ⟨l, hl, hji ▸ hli⟩
    · obtain ⟨k, hk, hkj⟩ := hb.lowest_le j q ((b.setWorker_ne _ hji).symm.trans hj) hq
      exact ⟨l, hl, Fin.le_trans (hle k hk) hkj⟩

/-- Every allowed move keeps the invariant. -/
theorem Sound.play (hb : b.Sound confirm may) (hm : b.Allowed may m)
    (h : b.play confirm m = some b') : b'.Sound confirm may := by
  obtain ⟨i, rfl, hi, rfl⟩ | ⟨i, a, w, rfl, hi, rfl⟩ | ⟨i, p, rfl, hi, rfl⟩ := play_cases h
  · refine hb.setWorker (by rw [hi]; nofun) ?_ ?_
    · split
      case isTrue hs => exact Or.inr ⟨hs, 0, rfl⟩
      case isFalse => trivial
    · intro p hp
      split at hp
      · cases hp; rfl
      · cases hp
  · have hset : (b.setWorker i w).Sound confirm may := by
      refine hb.setWorker ?_ ((hb.workers i).afterAnswer hm hi) ?_
      · intro r hr
        rw [hr] at hi
        cases hi
      · rintro p rfl
        exact afterAnswer_ne_done_fails hi
    exact ⟨hset.workers, hset.lowest_fails, hset.lowest_le⟩
  · exact hb.publish hi

/-- So does every list of allowed moves. -/
theorem Sound.playAll {ms : List (Move count)} (hb : b.Sound confirm may)
    (hm : b.AllAllowed confirm may ms) (h : b.playAll confirm ms = some b') :
    b'.Sound confirm may := by
  induction ms generalizing b with
  | nil =>
    cases h
    exact hb
  | cons m ms ih =>
    obtain ⟨b1, hb1, h⟩ := Option.bind_eq_some_iff.mp h
    exact ih (hb.play hm.1 hb1) (hm.2 b1 hb1) h

end Board

end DeltaDebug.Pool
