import DeltaDebug.Search.Minimize
import DeltaDebug.Proofs.Pool.Board
import DeltaDebug.Proofs.Scan

/-
  Scans by a pool decide. Once all workers are done, their findings are gone through in index
  order. Below the first index that fails no worker can have given up, since only an index that
  fails supersedes others; so up to there the findings are what a scan in order would have found,
  and what comes after it does not matter (`collect_eq_decision`). Hence, whatever the order of the
  moves, a scan by a pool comes to the outcome of a scan in order (`decides_scanBy`), and so does
  the pool whose workers take turns (`decides_scan`).
-/

namespace DeltaDebug.Pool

variable {σ : Type} {count : Nat} {confirm : Bool}

/-! ## Going through the findings -/

/-- Once an index is found, the other findings do not matter. -/
theorem collect_some (k : Fin count) (found : List (Finding count)) (s : Session σ) :
    (collect (some k) found s).1 = .ok (some k) := by
  induction found generalizing s with
  | nil => rfl
  | cons x rest ih =>
    obtain ⟨i, r⟩ := x
    cases r with
    | ok p => exact ih (s.record p)
    | error e => exact ih _

theorem progress_collect (found : Option (Fin count)) (rest : List (Finding count))
    (s : Session σ) : (collect found rest s).2.tally.progress = s.tally.progress := by
  induction rest generalizing found s with
  | nil => rfl
  | cons x rest ih =>
    obtain ⟨i, r⟩ := x
    cases r with
    | ok p => exact (ih _ _).trans (s.tally.progress_record p)
    | error e =>
      simp only [collect]
      split
      · exact ih _ _
      · rfl

/-- The findings amount to the decision of a scan in order, if each of them is what the oracle says
    about its candidate or has a failing index below it. -/
theorem collect_eq_decision (confirm : Bool) {f : Candidate → Answer}
    {build : Fin count → Candidate} (found : List (Finding count)) (s : Session σ)
    (hsorted : found.Pairwise fun x y => x.1 < y.1)
    (h : ∀ x ∈ found, (∃ a, Akin a (f (build x.1)) ∧ x.2 = settle confirm a) ∨
      ∃ y ∈ found, y.1 < x.1 ∧ f (build y.1) = .ok (some .fails)) :
    (collect none found s).1 = decision f build (found.map Prod.fst) := by
  induction found generalizing s with
  | nil => rfl
  | cons x rest ih =>
    obtain ⟨i, r⟩ := x
    obtain ⟨hlt, hrest⟩ := List.pairwise_cons.mp hsorted
    -- nothing comes before the first finding, so it is what the oracle says
    obtain ⟨a, ha, hr⟩ : ∃ a, Akin a (f (build i)) ∧ r = settle confirm a := by
      rcases h _ List.mem_cons_self with hr | ⟨y, hy, hyi, _⟩
      · exact hr
      · rcases List.mem_cons.mp hy with rfl | hy
        · exact absurd hyi (Fin.lt_irrefl _)
        · exact absurd hyi (Fin.lt_asymm (hlt y hy))
    cases r with
    | error e =>
      rw [List.map_cons, decision_cons_error ((ha.error_iff e).mp (settle_eq_error.mp hr.symm))]
      rfl
    | ok p =>
      rw [List.map_cons, decision_cons_settle hr.symm ha]
      cases hp : p.fails with
      | true =>
        simp only [collect, hp]
        exact collect_some i rest _
      | false =>
        simp only [collect, hp]
        refine ih (s.record p) hrest fun z hz => ?_
        rcases h z (List.mem_cons_of_mem _ hz) with hz' | ⟨y, hy, hyz, hyf⟩
        · exact Or.inl hz'
        · rcases List.mem_cons.mp hy with rfl | hy
          · have := ((fails_of_settle hr.symm).trans ha.fails_iff).mpr hyf
            rw [hp] at this
            cases this
          · exact Or.inr ⟨y, hy, hyz, hyf⟩

/-! ## Any order of moves -/

/-- If all workers are done, there is one finding for each index, in index order. -/
theorem findings?_spec {b : Board count} {found : List (Finding count)}
    (h : b.findings? = some found) :
    found.map Prod.fst = List.finRange count ∧ ∀ x ∈ found, b.worker x.1 = .done x.2 := by
  unfold Board.findings? at h
  generalize List.finRange count = is at h
  induction is generalizing found with
  | nil =>
    cases h
    simp
  | cons i is ih =>
    simp only [List.mapM_cons, Option.bind_eq_bind, Option.bind_eq_some_iff] at h
    obtain ⟨x, hx, xs, hxs, h⟩ := h
    cases h
    obtain ⟨hmap, hdone⟩ := ih hxs
    obtain ⟨r, hr, rfl⟩ : ∃ r, b.worker i = .done r ∧ (i, r) = x := by
      unfold Board.finding? at hx
      split at hx
      case h_1 r hr => exact ⟨r, hr, Option.some.inj hx⟩
      case h_2 => cases hx
    refine ⟨by simp [hmap], fun y hy => ?_⟩
    rcases List.mem_cons.mp hy with rfl | hy
    · exact hr
    · exact hdone y hy

/-- What a worker came to, if all answers are like `b`. -/
theorem concluded_settle {may : Answer → Prop} {b : Answer} (hmay : ∀ a, may a → Akin a b)
    {r : Except OracleError Probe} (h : Concluded confirm may r) :
    ∃ a, Akin a b ∧ r = settle confirm a := by
  obtain ⟨q, hq, rfl⟩ := h
  exact Inquiry.finding_of_akin fun call hcall => hmay _ (hq call hcall)

/-- The lowest failing index on the board fails, if the failures are those of `g`. -/
theorem Board.Sound.fails_of_lowest {g : Fin count → Answer} {may : Fin count → Answer → Prop}
    (hmay : ∀ i a, may i a → Akin a (g i)) {b : Board count} (hb : b.Sound confirm may)
    {k : Fin count} (hk : b.lowest = some k) : g k = .ok (some .fails) := by
  obtain ⟨p, hp, hfails⟩ := hb.lowest_fails k hk
  have hsound := hb.workers k
  rw [hp] at hsound
  rcases hsound with h | ⟨_, n, hn⟩
  · obtain ⟨a, ha, hsettle⟩ := concluded_settle (hmay k) h
    exact ha.fails_iff.mp ((fails_of_settle hsettle.symm).mp hfails)
  · cases hn
    cases hfails

/-- Whatever the order of the moves, the findings of a play amount to the decision. -/
theorem collect_play {f : Candidate → Answer} {build : Fin count → Candidate}
    {may : Fin count → Answer → Prop} (hmay : ∀ i a, may i a → Akin a (f (build i)))
    (play : Play confirm count) (legal : Board.initial.AllAllowed confirm may play.moves)
    (s : Session σ) :
    (collect none play.found s).1 = decision f build (List.finRange count) := by
  have hb : play.board.Sound confirm may := Board.sound_initial.playAll legal play.board_eq
  obtain ⟨hmap, hdone⟩ := findings?_spec play.found_eq
  rw [← hmap]
  refine collect_eq_decision confirm play.found s ?_ fun x hx => ?_
  · have hsorted : (play.found.map Prod.fst).Pairwise (· < ·) := by
      rw [hmap]
      exact List.pairwise_lt_finRange count
    exact List.pairwise_map.mp hsorted
  · have hsound := hb.workers x.1
    rw [hdone x hx] at hsound
    rcases hsound with h | ⟨hs, _⟩
    · exact Or.inl (concluded_settle (hmay x.1) h)
    · obtain ⟨k, hk, hlt⟩ := superseded_iff.mp hs
      have hmem : k ∈ play.found.map Prod.fst := by
        rw [hmap]
        exact List.mem_finRange k
      obtain ⟨y, hy, rfl⟩ := List.mem_map.mp hmem
      exact Or.inr ⟨y, hy, hlt, hb.fails_of_lowest hmay hk⟩

/-- Scans by a pool decide, under every legal schedule. -/
theorem decides_scanBy_of_akin {o : Oracle σ} {f : Candidate → Answer} (hf : o.AnswersLike f)
    {may : Candidate → Answer → Prop} (hmay : ∀ c a, may c a → Akin a (f c))
    (schedule : Schedule σ confirm) (legal : schedule.Legal may) :
    (scanBy o schedule).Decides f := by
  intro count build s
  unfold scanBy
  split
  · exact decides_scanInOrder_of_akin hf confirm count build s
  · exact collect_play (fun i => hmay (build i)) _ (legal count build s) _

theorem decides_scanBy {o : Oracle σ} {f : Candidate → Answer} (hf : o.AnswersBy f)
    (schedule : Schedule σ confirm) (legal : schedule.Legal fun c a => a = f c) :
    (scanBy o schedule).Decides f := by
  refine decides_scanBy_of_akin hf.answersLike (fun c a h => ?_) schedule legal
  rw [h]
  exact Akin.refl (f c)

theorem keepsProgress_scanBy (o : Oracle σ) (schedule : Schedule σ confirm) :
    (scanBy o schedule).KeepsProgress := by
  intro count build s
  unfold scanBy
  split
  · exact keepsProgress_scanInOrder o confirm count build s
  · exact progress_collect _ _ _

/-! ## Turns in index order -/

theorem tally_findings (o : Oracle σ) (confirm : Bool) (build : Fin count → Candidate)
    (lowest : Option (Fin count)) (is : List (Fin count)) (s : Session σ) :
    (findings o confirm build lowest is s).2.tally = s.tally := by
  induction is generalizing lowest s with
  | nil => rfl
  | cons i is ih =>
    simp only [findings]
    split
    · exact ih _ _
    · obtain ⟨_, _, h⟩ := probe_inquiry o confirm (build i) s
      exact (ih _ _).trans h.tally

theorem collect_findings {o : Oracle σ} {f : Candidate → Answer} (hf : o.AnswersLike f)
    (confirm : Bool) (build : Fin count → Candidate) (is : List (Fin count)) (s s' : Session σ) :
    (collect none (findings o confirm build none is s).1 s').1 = decision f build is := by
  induction is generalizing s s' with
  | nil => rfl
  | cons i is ih =>
    obtain ⟨a, ha, hr⟩ := probe_of_akin hf confirm (build i) s
    rcases hp : probe o confirm (build i) s with ⟨r, s1⟩
    rw [hp] at hr
    simp only [findings, superseded, Option.any_none, Bool.false_eq_true, if_false, hp]
    cases r with
    | error e =>
      rw [decision_cons_error ((ha.error_iff e).mp (settle_eq_error.mp hr.symm))]
      rfl
    | ok p =>
      rw [decision_cons_settle hr.symm ha]
      cases hfails : p.fails with
      | true =>
        simp only [collect, hfails]
        exact collect_some i _ _
      | false =>
        simp only [collect, lower, hfails]
        exact ih s1 _

/-- So do the scans of a pool whose workers take turns. -/
theorem decides_scan_of_akin {o : Oracle σ} {f : Candidate → Answer} (hf : o.AnswersLike f)
    (confirm : Bool) : (Pool.scan o confirm).Decides f := by
  intro count build s
  unfold Pool.scan
  split
  · exact decides_scanInOrder_of_akin hf confirm count build s
  · exact collect_findings hf confirm build _ s _

theorem decides_scan {o : Oracle σ} {f : Candidate → Answer} (hf : o.AnswersBy f)
    (confirm : Bool) : (Pool.scan o confirm).Decides f :=
  decides_scan_of_akin hf.answersLike confirm

theorem keepsProgress_scan (o : Oracle σ) (confirm : Bool) :
    (Pool.scan o confirm).KeepsProgress := by
  intro count build s
  unfold Pool.scan
  split
  · exact keepsProgress_scanInOrder o confirm count build s
  · rw [progress_collect, tally_findings]

end DeltaDebug.Pool

namespace DeltaDebug

variable {σ : Type}

/-- The scan that the options ask for decides. -/
theorem Options.decides_scan_of_akin {o : Oracle σ} {f : Candidate → Answer}
    (hf : o.AnswersLike f) (opts : Options) : (opts.scan o).Decides f := by
  unfold Options.scan
  split
  · exact decides_scanInOrder_of_akin hf opts.doubleCheck
  · exact Pool.decides_scan_of_akin hf opts.doubleCheck

theorem Options.decides_scan {o : Oracle σ} {f : Candidate → Answer} (hf : o.AnswersBy f)
    (opts : Options) : (opts.scan o).Decides f :=
  opts.decides_scan_of_akin hf.answersLike

theorem Options.keepsProgress_scan (opts : Options) (o : Oracle σ) :
    (opts.scan o).KeepsProgress := by
  unfold Options.scan
  split
  · exact keepsProgress_scanInOrder o opts.doubleCheck
  · exact Pool.keepsProgress_scan o opts.doubleCheck

end DeltaDebug
