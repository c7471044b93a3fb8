import ODataBuilder.Value.Basic
import ODataBuilder.Text.Quoted
/-!
# Literal text of values

How each value is written in a query. Floats take the fewest digits that read back to the
same value in their own precision, written positionally; NaN and the infinities are `NaN`,
`INF` and `-INF`, and negative zero keeps its sign. Text is quoted with quotes doubled, a
duration is wrapped as `duration'…'`, and the calendar values use their ISO forms.
-/
namespace ODataBuilder

namespace BinaryFloat

def literal (f : BinaryFormat) (x : BinaryFloat) : String :=
  match x with
  | .nan => "NaN"
  | .infinite negative => if negative then "-INF" else "INF"
  | .finite negative m e => ((BinaryFloat.finite negative m e).decimalText f).getD ""

end BinaryFloat

namespace Value

def literal : Value → String
  | .null => "null"
  | .bool b => if b then "true" else "false"
  | .int n => toString n.toInt
  | .uint n => toString n.toNat
  | .float32 x => x.literal BinaryFormat.single
  | .float x => x.literal BinaryFormat.double
  | .decimal d => d.text
  | .text s => Quoted.quote s
  | .guid g => g.text
  | .date d => d.text
  | .timeOfDay t => t.text
  | .dateTime m => m.text
  | .duration s => "duration'" ++ s.text ++ "'"

end Value

end ODataBuilder
