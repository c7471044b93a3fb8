import ODataBuilder.Json.Reader
import ODataBuilder.Number.Compact
/-!
# Documents as their values write them back

A document read into values and written again loses how its numbers were spelled: an integer
that fits in 64 bits is written as itself, and any other number as the compact text of the
binary64 value the reader gives it, so `1e2` becomes `100.0` and an integer too long for 64
bits becomes a rounded binary64 value. `Json.normalized` makes that change everywhere in a
document and leaves everything else as it was.
-/
namespace ODataBuilder

namespace Json

def NumberValue.text : NumberValue → String
  | .unsigned n => toString n
  | .signed n => toString n
  | .float x => BinaryFloat.compactText .double x

/-- A number's text as written back once read; text that is not a number stays. -/
def normalizedNumber (text : String) : String :=
  match numberValue? text with
  | some v => v.text
  | none => text

mutual
def normalized : Json → Json
  | .number text => .number (normalizedNumber text)
  | .array items => .array (normalizedItems items)
  | .object members => .object (normalizedMembers members)
  | other => other

def normalizedItems : List Json → List Json
  | [] => []
  | item :: rest => normalized item :: normalizedItems rest

def normalizedMembers : List (String × Json) → List (String × Json)
  | [] => []
  | (key, value) :: rest => (key, normalized value) :: normalizedMembers rest
end

end Json

end ODataBuilder
