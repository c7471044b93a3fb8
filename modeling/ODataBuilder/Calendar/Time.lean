import ODataBuilder.Calendar.Date
/-!
# Times of day

Nanoseconds past `10^9` stand for a leap second, written as second 60. A fraction is written
with three, six or nine digits, the fewest that hold it exactly.
-/
namespace ODataBuilder

structure TimeOfDay where
  hour : Nat
  minute : Nat
  second : Nat
  nano : Nat
  deriving Repr, DecidableEq

namespace TimeOfDay

def nanosPerSecond : Nat := 1000000000

def ofHmsn? (hour minute second nano : Nat) : Option TimeOfDay :=
  if hour < 24 ∧ minute < 60 ∧ second < 60 ∧ nano < 2 * nanosPerSecond ∧
      (nano < nanosPerSecond ∨ second = 59) then
    some ⟨hour, minute, second, nano⟩
  else none

/-- The fraction of a second, point included: 0, 3, 6 or 9 digits. -/
def fractionText (nano : Nat) : String :=
  if nano = 0 then ""
  else if nano % 1000000 = 0 then "." ++ Date.padded 3 (nano / 1000000)
  else if nano % 1000 = 0 then "." ++ Date.padded 6 (nano / 1000)
  else "." ++ Date.padded 9 nano

/-- The time as `HH:MM:SS` and its fraction; a leap second reads as second 60. -/
def text (t : TimeOfDay) : String :=
  let leap := if t.nano ≥ nanosPerSecond then 1 else 0
  Date.padded 2 t.hour ++ ":" ++ Date.padded 2 t.minute ++ ":" ++ Date.padded 2 (t.second + leap) ++
    fractionText (t.nano % nanosPerSecond)

def secondOfDay (t : TimeOfDay) : Nat :=
  t.hour * 3600 + t.minute * 60 + t.second

end TimeOfDay

end ODataBuilder
