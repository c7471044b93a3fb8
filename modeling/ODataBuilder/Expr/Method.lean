/-!
# Method catalog

The functions a filter may call, each with its name and the number of arguments it takes:
an exact count, or a range such as `substring`'s two to three.
-/
namespace ODataBuilder

inductive Arity where
  | exact (count : Nat)
  | between (least most : Nat)
  deriving Repr, DecidableEq

namespace Arity

def accepts : Arity → Nat → Bool
  | .exact n, count => count == n
  | .between least most, count => least ≤ count && count ≤ most

def text : Arity → String
  | .exact n => toString n
  | .between least most => toString least ++ " to " ++ toString most

end Arity

inductive Method where
  | contains | startsWith | endsWith | length | trim | indexOf | substring | concat
  | round | floor | ceiling | now | date | hour | month | totalSeconds
  | totalOffsetMinutes | fractionalSeconds | geoDistance | geoIntersects | geoLength
  | isOf | cast
  deriving Repr, DecidableEq, Inhabited

namespace Method

def all : List Method :=
  [.contains, .startsWith, .endsWith, .length, .trim, .indexOf, .substring, .concat,
    .round, .floor, .ceiling, .now, .date, .hour, .month, .totalSeconds,
    .totalOffsetMinutes, .fractionalSeconds, .geoDistance, .geoIntersects, .geoLength,
    .isOf, .cast]

def name : Method → String
  | .contains => "contains"
  | .startsWith => "startswith"
  | .endsWith => "endswith"
  | .length => "length"
  | .trim => "trim"
  | .indexOf => "indexof"
  | .substring => "substring"
  | .concat => "concat"
  | .round => "round"
  | .floor => "floor"
  | .ceiling => "ceiling"
  | .now => "now"
  | .date => "date"
  | .hour => "hour"
  | .month => "month"
  | .totalSeconds => "totalseconds"
  | .totalOffsetMinutes => "totaloffsetminutes"
  | .fractionalSeconds => "fractionalseconds"
  | .geoDistance => "geo.distance"
  | .geoIntersects => "geo.intersects"
  | .geoLength => "geo.length"
  | .isOf => "isof"
  | .cast => "cast"

def arity : Method → Arity
  | .now => .exact 0
  | .length | .trim | .round | .floor | .ceiling | .date | .hour | .month | .totalSeconds
  | .totalOffsetMinutes | .fractionalSeconds | .geoLength => .exact 1
  | .contains | .startsWith | .endsWith | .indexOf | .concat | .geoDistance
  | .geoIntersects => .exact 2
  | .substring => .between 2 3
  | .isOf | .cast => .between 1 2

def ofName? (word : String) : Option Method :=
  all.find? (·.name == word)

end Method

end ODataBuilder
