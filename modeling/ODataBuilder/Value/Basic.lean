import ODataBuilder.Number.Shortest
import ODataBuilder.Value.Decimal
import ODataBuilder.Calendar.Moment
import ODataBuilder.Calendar.Span
/-!
# Values

The typed constants that a query compares fields with: null, booleans, signed and unsigned
64-bit integers, binary32 and binary64 floats, scaled decimals, text, GUIDs, dates, times of
day, date-times at an offset and spans of time. Each value has a kind name and a literal
text (`ODataBuilder.Value.Literal`).
-/
namespace ODataBuilder

structure Guid where
  value : Nat
  deriving Repr, DecidableEq

namespace Guid

def ofNat? (n : Nat) : Option Guid :=
  if n < Nat.pow 2 128 then some ⟨n⟩ else none

def hexDigits : Nat → Nat → List Char
  | 0, _ => []
  | count + 1, n => hexDigits count (n / 16) ++ [hexChar (n % 16)]
where
  hexChar (d : Nat) : Char := if d < 10 then Char.ofNat (48 + d) else Char.ofNat (87 + d)

/-- The identifier in groups of 8, 4, 4, 4 and 12 lower-case hex digits. -/
def text (g : Guid) : String :=
  let digits := hexDigits 32 g.value
  String.ofList (digits.take 8) ++ "-" ++ String.ofList ((digits.drop 8).take 4) ++ "-" ++
    String.ofList ((digits.drop 12).take 4) ++ "-" ++ String.ofList ((digits.drop 16).take 4) ++
    "-" ++ String.ofList (digits.drop 20)

end Guid

inductive Value where
  | null
  | bool (value : Bool)
  | int (value : Int64)
  | uint (value : UInt64)
  | float32 (value : BinaryFloat)
  | float (value : BinaryFloat)
  | decimal (value : ScaledDecimal)
  | text (value : String)
  | guid (value : Guid)
  | date (value : Date)
  | timeOfDay (value : TimeOfDay)
  | dateTime (value : Moment)
  | duration (value : Span)
  deriving Repr, DecidableEq

namespace Value

def isNull : Value → Bool
  | .null => true
  | _ => false

def kind : Value → String
  | .null => "null"
  | .bool _ => "bool"
  | .int _ => "int"
  | .uint _ => "uint"
  | .float32 _ => "float32"
  | .float _ => "float"
  | .decimal _ => "decimal"
  | .text _ => "text"
  | .guid _ => "guid"
  | .date _ => "date"
  | .timeOfDay _ => "time_of_day"
  | .dateTime _ => "date_time"
  | .duration _ => "duration"

end Value

end ODataBuilder
