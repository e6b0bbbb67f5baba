/-
  Moments as texts: the date of the Gregorian calendar and the time of day, both in UTC, from the
  seconds since the start of 1970.
-/

namespace DeltaDebug.CommandLine

/-- A day of the calendar. -/
structure CivilDate where
  year : Nat
  month : Nat
  day : Nat
deriving DecidableEq

namespace CivilDate

/-- The day that lies `n` days after the first of January 1970. Years are counted from March, so
that a leap day is the last of its year; 400 such years have 146097 days. -/
def ofDays (n : Nat) : CivilDate :=
  let z := n + 719468
  let era := z / 146097
  let dayOfEra := z % 146097
  let yearOfEra := (dayOfEra - dayOfEra / 1460 + dayOfEra / 36524 - dayOfEra / 146096) / 365
  let dayOfYear := dayOfEra - (365 * yearOfEra + yearOfEra / 4 - yearOfEra / 100)
  let m := (5 * dayOfYear + 2) / 153
  let day := dayOfYear - (153 * m + 2) / 5 + 1
  let month := if m < 10 then m + 3 else m - 9
  ⟨yearOfEra + 400 * era + (if month ≤ 2 then 1 else 0), month, day⟩

end CivilDate

/-- A number with zeros in front up to a width. -/
def padded (width n : Nat) : String :=
  let digits := Nat.toDigits 10 n
  String.ofList (List.replicate (width - digits.length) '0' ++ digits)

/-- The date and the time of day to the second, without a zone. -/
def secondText (seconds : Nat) : String :=
  let d := CivilDate.ofDays (seconds / 86400)
  let s := seconds % 86400
  padded 4 d.year ++ "-" ++ padded 2 d.month ++ "-" ++ padded 2 d.day ++ "T" ++
    padded 2 (s / 3600) ++ ":" ++ padded 2 (s / 60 % 60) ++ ":" ++ padded 2 (s % 60)

/-- A moment as reports write it. -/
def reportTime (seconds : Nat) : String := secondText seconds ++ "Z"

/-- A moment as log lines write it, with its microseconds. -/
def logTime (seconds micros : Nat) : String := secondText seconds ++ "." ++ padded 6 micros ++ "Z"

example : reportTime 0 = "1970-01-01T00:00:00Z" := by decide +kernel

example : CivilDate.ofDays 11016 = ⟨2000, 2, 29⟩ := by decide

end DeltaDebug.CommandLine
