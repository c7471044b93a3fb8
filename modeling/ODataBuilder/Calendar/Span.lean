import ODataBuilder.Calendar.Time
/-!
# Spans of time

Signed seconds plus nanoseconds `0 ≤ nanos < 10^9`, at most `2^63 - 1` milliseconds, written
`PT<seconds>S` without trailing zeros, and `P0D` for zero.
-/
namespace ODataBuilder

structure Span where
  seconds : Int
  nanos : Nat
  deriving Repr, DecidableEq

namespace Span

def maxNanos : Int := (Int.pow 2 63 - 1) * 1000000

/-- The span with these parts, if the nanoseconds are below a second and the whole is in
range. -/
def ofParts? (seconds : Int) (nanos : Nat) : Option Span :=
  let total := seconds * 1000000000 + nanos
  if nanos < 1000000000 ∧ total ≤ maxNanos ∧ -maxNanos ≤ total then some ⟨seconds, nanos⟩
  else none

def magnitude (s : Span) : Nat × Nat :=
  if s.seconds < 0 then
    if s.nanos = 0 then (s.seconds.natAbs, 0) else (s.seconds.natAbs - 1, 1000000000 - s.nanos)
  else (s.seconds.toNat, s.nanos)

def fractionDigits : Nat → Nat → Nat → Nat × Nat
  | 0, n, count => (n, count)
  | fuel + 1, n, count => if n % 10 = 0 then fractionDigits fuel (n / 10) (count - 1) else (n, count)

def text (s : Span) : String :=
  let sign := if s.seconds < 0 then "-" else ""
  let (secs, nanos) := s.magnitude
  if secs = 0 ∧ nanos = 0 then sign ++ "P0D"
  else
    let fraction :=
      if nanos = 0 then ""
      else
        let (digits, count) := fractionDigits 9 nanos 9
        "." ++ Date.padded count digits
    sign ++ "PT" ++ toString secs ++ fraction ++ "S"

end Span

end ODataBuilder
