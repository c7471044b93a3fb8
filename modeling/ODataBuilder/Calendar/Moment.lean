import ODataBuilder.Calendar.Time
/-!
# Date-times at a fixed offset

A local date and time with its zone's offset from UTC, less than a day either way. The offset
is written `Z` when zero, else as `±HH:MM` rounded to the nearest minute, half away from zero.
-/
namespace ODataBuilder

structure Moment where
  date : Date
  time : TimeOfDay
  offset : Int
  deriving Repr, DecidableEq

namespace Moment

/-- Whether the instant named stays within the calendar's range: only the first and the last
day can be pushed past it by the offset. -/
def inRange (date : Date) (time : TimeOfDay) (offset : Int) : Bool :=
  let utcSecond : Int := (time.secondOfDay : Int) - offset
  if date = Date.first then utcSecond ≥ 0
  else if date = Date.last then utcSecond < 86400
  else true

/-- The moment with these parts, if the offset is less than a day and the instant is in
range. -/
def ofParts? (date : Date) (time : TimeOfDay) (offset : Int) : Option Moment :=
  if offset.natAbs < 86400 ∧ inRange date time offset then some ⟨date, time, offset⟩ else none

def offsetText (offset : Int) : String :=
  if offset = 0 then "Z"
  else
    let minutes := (offset.natAbs + 30) / 60
    (if offset < 0 then "-" else "+") ++ Date.padded 2 (minutes / 60) ++ ":" ++
      Date.padded 2 (minutes % 60)

def text (m : Moment) : String :=
  m.date.text ++ "T" ++ m.time.text ++ offsetText m.offset

end Moment

end ODataBuilder
