import DeltaDebug.Proofs.Pool.Decision

/-
  What scans cost. A search counts the calls that came to a verdict and the probes that came to
  nothing; `Tally.spent` is both together. One probe adds at most `price confirm` to it: one, or two
  if failures have to be confirmed (`Inquiry.affordable`). So a scan spends at most that on each of
  its candidates (`Scan.Frugal`): in order, by a pool whose workers take turns, and by a pool under
  every order of moves (`frugal_scanInOrder`, `frugal_scan`, `frugal_scanBy`). A pool pays for the
  candidates above the first failure too, as those count as probes that came to nothing.

  Nothing is asked of the oracle or of the order of moves; the answers may be any.
-/

namespace DeltaDebug

variable {σ : Type} {confirm : Bool}

/-! ## Probes -/

/-- The calls that came to a verdict and the probes that came to nothing. -/
def Tally.spent (t : Tally) : Nat := t.invocations + t.cancelled

/-- What a probe adds to them. -/
def Probe.charge (p : Probe) : Nat := p.invocations + if p.verdict = none then 1 else 0

theorem Tally.spent_record (t : Tally) (p : Probe) : (t.record p).spent = t.spent + p.charge := by
  obtain ⟨n, v⟩ := p
  cases v with
  | none => exact Nat.add_add_add_comm _ _ _ _
  | some v => cases v <;> exact Nat.add_right_comm _ _ _

/-- The most that a probe adds to them. -/
def price (confirm : Bool) : Nat := if confirm then 2 else 1

theorem price_pos (confirm : Bool) : 1 ≤ price confirm := by cases confirm <;> decide

/-- A finding that does not cost more than its price; an error costs nothing. -/
def Affordable (confirm : Bool) : Except OracleError Probe → Prop
  | .ok p => p.charge ≤ price confirm
  | .error _ => True

theorem Inquiry.affordable (q : Inquiry confirm) : Affordable confirm q.finding := by
  obtain ⟨c, first, second, hs⟩ := q
  cases second with
  | none =>
    rcases first with e | _ | v
    · trivial
    · exact price_pos confirm
    · exact price_pos confirm
  | some a =>
    obtain ⟨rfl, rfl⟩ := hs.mp rfl
    rcases a with e | _ | v
    · trivial
    · exact Nat.le_refl 2
    · cases v <;> exact Nat.le_refl 2

theorem Tally.spent_enter_le (t : Tally) {r : Except OracleError Probe}
    (h : Affordable confirm r) : (t.enter r).spent ≤ t.spent + price confirm := by
  cases r with
  | error e => exact Nat.le_add_right _ _
  | ok p => exact Nat.le_trans (Nat.le_of_eq (t.spent_record p)) (Nat.add_le_add_left h _)

/-! ## Scans in order -/

/-- The scan spends no more than `price` on each of its candidates. -/
def Scan.Frugal (scan : Scan σ) (price : Nat) : Prop :=
  ∀ (count : Nat) (build : Fin count → Candidate) (s : Session σ),
    (scan count build s).2.tally.spent ≤ s.tally.spent + price * count

theorem Recorded.spent_le {o : Oracle σ} {s s' : Session σ} {qs : List (Inquiry confirm)}
    (h : Recorded o s qs s') : s'.tally.spent ≤ s.tally.spent + price confirm * qs.length := by
  have hfold : ∀ t : Tally, (qs.foldl (fun t q => t.enter q.finding) t).spent ≤
      t.spent + price confirm * qs.length := by
    clear h
    induction qs with
    | nil => exact fun t => Nat.le_refl _
    | cons q qs ih =>
      intro t
      have hone := t.spent_enter_le q.affordable
      have hrest := ih (t.enter q.finding)
      rw [List.foldl_cons, List.length_cons, Nat.mul_succ]
      omega
  rw [h.tally]
  exact hfold s.tally

theorem Scanned.length_le {α : Type} {build : α → Candidate} {is : List α}
    {qs : List (Inquiry confirm)} {r : Except OracleError (Option α)} (h : Scanned build is qs r) :
    qs.length ≤ is.length := by
  induction h with
  | nil => exact Nat.le_refl _
  | error => exact Nat.le_add_left _ _
  | found => exact Nat.le_add_left _ _
  | next _ _ _ _ ih => exact Nat.succ_le_succ ih

theorem frugal_scanInOrder (o : Oracle σ) (confirm : Bool) :
    (scanInOrder o confirm).Frugal (price confirm) := by
  intro count build s
  obtain ⟨qs, hs, hr⟩ := firstFailing_scanned o confirm build (List.finRange count) s
  have hlen := hs.length_le
  rw [List.length_finRange] at hlen
  exact Nat.le_trans hr.spent_le (Nat.add_le_add_left (Nat.mul_le_mul_left _ hlen) _)

/-! ## Scans by a pool -/

namespace Pool

variable {count : Nat}

/-- Going through the findings pays for each of them once. -/
theorem spent_collect (found : Option (Fin count)) {rest : List (Finding count)}
    (h : ∀ x ∈ rest, Affordable confirm x.2) (s : Session σ) :
    (collect found rest s).2.tally.spent ≤ s.tally.spent + price confirm * rest.length := by
  induction rest generalizing found s with
  | nil => exact Nat.le_refl _
  | cons x rest ih =>
    obtain ⟨i, r⟩ := x
    have hrest : ∀ x ∈ rest, Affordable confirm x.2 := fun y hy => h y (List.mem_cons_of_mem _ hy)
    rw [List.length_cons, Nat.mul_succ]
    cases r with
    | ok p =>
      have hp : p.charge ≤ price confirm := h _ List.mem_cons_self
      have hspent : (s.record p).tally.spent = s.tally.spent + p.charge := s.tally.spent_record p
      simp only [collect]
      refine Nat.le_trans (ih _ hrest (s.record p)) ?_
      omega
    | error e =>
      -- an error that is ignored counts as a probe that came to nothing
      have hone := price_pos confirm
      simp only [collect]
      split
      · refine Nat.le_trans (ih found hrest _) ?_
        change s.tally.invocations + (s.tally.cancelled + 1) + _ ≤
          s.tally.invocations + s.tally.cancelled + _
        omega
      · exact Nat.le_add_right _ _

/-- What holds of a worker at any time: it makes a second call only to confirm a failure, and what
    it comes to is affordable. -/
def Worker.Priced (confirm : Bool) : Worker → Prop
  | .idle | .calling => True
  | .confirming => confirm = true
  | .failed p => Affordable confirm (.ok p)
  | .done r => Affordable confirm r

theorem Worker.Priced.afterAnswer {w w' : Worker} {a : Answer} (hw : w.Priced confirm)
    (h : Board.afterAnswer confirm w a = some w') : w'.Priced confirm := by
  cases w with
  | calling =>
    rcases a with e | _ | v
    · cases h
      trivial
    · cases h
      exact price_pos confirm
    · cases v with
      | passes => cases h; exact price_pos confirm
      | unresolved => cases h; exact price_pos confirm
      | fails =>
        cases confirm with
        | true => cases h; rfl
        | false => cases h; exact Nat.le_refl 1
  | confirming =>
    obtain rfl : confirm = true := hw
    rcases a with e | _ | v
    · cases h
      trivial
    · cases h
      exact Nat.le_refl 2
    · cases v <;> cases h <;> exact Nat.le_refl 2
  | idle => cases h
  | failed p => cases h
  | done r => cases h

namespace Board

variable {b b' : Board count}

theorem priced_setWorker (hb : ∀ i, (b.worker i).Priced confirm) {i : Fin count} {w : Worker}
    (hw : w.Priced confirm) : ∀ j, ((b.setWorker i w).worker j).Priced confirm := by
  intro j
  by_cases hji : j = i
  · rw [hji, setWorker_self]
    exact hw
  · rw [b.setWorker_ne w hji]
    exact hb j

theorem priced_play {m : Move count} (hb : ∀ i, (b.worker i).Priced confirm)
    (h : b.play confirm m = some b') : ∀ i, (b'.worker i).Priced confirm := by
  obtain ⟨i, rfl, _, rfl⟩ | ⟨i, a, w, rfl, hw, rfl⟩ | ⟨i, p, rfl, hp, rfl⟩ := play_cases h
  · refine priced_setWorker hb ?_
    split
    · exact price_pos confirm
    · trivial
  · exact priced_setWorker hb ((hb i).afterAnswer hw)
  · have hi := hb i
    rw [hp] at hi
    exact priced_setWorker hb hi

/-- Every list of moves keeps it, whatever the answers are. -/
theorem priced_playAll {ms : List (Move count)} (hb : ∀ i, (b.worker i).Priced confirm)
    (h : b.playAll confirm ms = some b') : ∀ i, (b'.worker i).Priced confirm := by
  induction ms generalizing b with
  | nil =>
    cases h
    exact hb
  | cons m ms ih =>
    obtain ⟨b1, hb1, h⟩ := Option.bind_eq_some_iff.mp h
    exact ih (priced_play hb hb1) h

end Board

/-- There is one finding for each index, and all are affordable. -/
theorem Play.affordable (play : Play confirm count) :
    play.found.length = count ∧ ∀ x ∈ play.found, Affordable confirm x.2 := by
  obtain ⟨hmap, hdone⟩ := findings?_spec play.found_eq
  have hpriced : ∀ i, (play.board.worker i).Priced confirm :=
    Board.priced_playAll (b := Board.initial) (fun _ => trivial) play.board_eq
  refine ⟨?_, fun x hx => ?_⟩
  · have hlen := congrArg List.length hmap
    rw [List.length_map, List.length_finRange] at hlen
    exact hlen
  · have hworker := hpriced x.1
    rw [hdone x hx] at hworker
    exact hworker

theorem frugal_scanBy (o : Oracle σ) (schedule : Schedule σ confirm) :
    (scanBy o schedule).Frugal (price confirm) := by
  intro count build s
  unfold scanBy
  split
  · exact frugal_scanInOrder o confirm count build s
  · obtain ⟨hlen, hall⟩ := (schedule count build s).affordable
    refine Nat.le_trans (spent_collect none hall _) (Nat.le_of_eq ?_)
    rw [hlen]

theorem affordable_findings (o : Oracle σ) (confirm : Bool) (build : Fin count → Candidate)
    (lowest : Option (Fin count)) (is : List (Fin count)) (s : Session σ) :
    (findings o confirm build lowest is s).1.length = is.length ∧
      ∀ x ∈ (findings o confirm build lowest is s).1, Affordable confirm x.2 := by
  induction is generalizing lowest s with
  | nil => exact ⟨rfl, nofun⟩
  | cons i is ih =>
    simp only [findings]
    split
    · obtain ⟨hlen, hall⟩ := ih lowest s
      exact ⟨congrArg Nat.succ hlen, List.forall_mem_cons.mpr ⟨price_pos confirm, hall⟩⟩
    · obtain ⟨q, _, hq⟩ := probe_inquiry o confirm (build i) s
      obtain ⟨hlen, hall⟩ := ih (lower lowest i (probe o confirm (build i) s).1)
        (probe o confirm (build i) s).2
      refine ⟨congrArg Nat.succ hlen, List.forall_mem_cons.mpr ⟨?_, hall⟩⟩
      rw [hq.finding]
      exact q.affordable

theorem frugal_scan (o : Oracle σ) (confirm : Bool) :
    (Pool.scan o confirm).Frugal (price confirm) := by
  intro count build s
  unfold Pool.scan
  split
  · exact frugal_scanInOrder o confirm count build s
  · obtain ⟨hlen, hall⟩ := affordable_findings o confirm build none (List.finRange count) s
    have hle := spent_collect none hall (findings o confirm build none (List.finRange count) s).2
    rw [tally_findings, hlen, List.length_finRange] at hle
    exact hle

end Pool

theorem Options.frugal_scan (opts : Options) (o : Oracle σ) :
    (opts.scan o).Frugal (price opts.doubleCheck) := by
  unfold Options.scan
  split
  · exact frugal_scanInOrder o opts.doubleCheck
  · exact Pool.frugal_scan o opts.doubleCheck

end DeltaDebug
