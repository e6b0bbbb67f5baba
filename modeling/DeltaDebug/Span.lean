/-
  Spans of time, counted in nanoseconds, and the text they are logged as.
-/

namespace DeltaDebug

/-- A span of time in nanoseconds. -/
abbrev Span := Nat

namespace Span

def ofMillis (ms : Nat) : Span := ms * 1000000

/-- The digits behind the point of `part` out of `unit`, without zeros at the end; `unit` is a
power of ten. -/
def fraction (part unit : Nat) : String :=
  let digits := ((Nat.toDigits 10 (unit + part)).drop 1).reverse.dropWhile (· = '0')
  if digits = [] then "" else "." ++ String.ofList digits.reverse

/-- A span in the largest unit of which it holds one: `0ns`, `60ms`, `1.5s`. -/
def text (t : Span) : String :=
  if 1000000000 ≤ t then s!"{t / 1000000000}{fraction (t % 1000000000) 1000000000}s"
  else if 1000000 ≤ t then s!"{t / 1000000}{fraction (t % 1000000) 1000000}ms"
  else if 1000 ≤ t then s!"{t / 1000}{fraction (t % 1000) 1000}µs"
  else s!"{t}ns"

end Span

end DeltaDebug
