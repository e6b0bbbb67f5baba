import DeltaDebug.Search.Session

/-
  Probes: one candidate is put to the oracle, twice if a failure has to be confirmed. A scan
  probes several candidates and picks the first that fails.
-/

namespace DeltaDebug

variable {σ : Type}

/-- Probes one candidate. With `confirm`, a failure counts only if a second call sees it too. -/
def probe (o : Oracle σ) (confirm : Bool) (c : Candidate) (s : Session σ) :
    Except OracleError Probe × Session σ :=
  match s.ask o c with
  | (.error e, s) => (.error e, s)
  | (.ok none, s) => (.ok (.abandoned 0), s)
  | (.ok (some .passes), s) => (.ok ⟨1, some .passes⟩, s)
  | (.ok (some .unresolved), s) =>
    (.ok ⟨1, some .unresolved⟩, s.note (.verdictUnresolved c.length))
  | (.ok (some .fails), s) =>
    if confirm then
      match s.ask o c with
      | (.error e, s) => (.error e, s)
      | (.ok none, s) => (.ok (.abandoned 1), s)
      | (.ok (some .fails), s) => (.ok ⟨2, some .fails⟩, s)
      | (.ok (some second), s) =>
        (.ok ⟨2, some .unresolved⟩, s.note (.failureNotConfirmed c.length second))
    else (.ok ⟨1, some .fails⟩, s)

/-- A way of looking for the lowest of `count` indices whose candidate fails. -/
abbrev Scan (σ : Type) :=
  (count : Nat) → (Fin count → Candidate) → Session σ →
    Except OracleError (Option (Fin count)) × Session σ

/-- Probes candidates one after the other up to the first that fails. -/
def firstFailing {α : Type} (o : Oracle σ) (confirm : Bool) (build : α → Candidate) :
    List α → Session σ → Except OracleError (Option α) × Session σ
  | [], s => (.ok none, s)
  | i :: rest, s =>
    match probe o confirm (build i) s with
    | (.error e, s) => (.error e, s)
    | (.ok p, s) =>
      if p.fails then (.ok (some i), s.record p)
      else firstFailing o confirm build rest (s.record p)

/-- The scan in index order, one candidate at a time. -/
def scanInOrder (o : Oracle σ) (confirm : Bool) : Scan σ :=
  fun count build s => firstFailing o confirm build (List.finRange count) s

end DeltaDebug
