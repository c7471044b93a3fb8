import ODataBuilder.Path.Basic
/-!
# Sort orders

An ordering names a path and a direction, ascending unless said otherwise; it is written as
the path, followed by ` desc` when descending.
-/
namespace ODataBuilder

inductive SortDirection where
  | asc | desc
  deriving Repr, DecidableEq

namespace SortDirection

def suffix : SortDirection → String
  | .asc => ""
  | .desc => " desc"

def name : SortDirection → String
  | .asc => "asc"
  | .desc => "desc"

end SortDirection

structure OrderBy where
  path : FieldPath
  direction : SortDirection := .asc
  deriving Repr, DecidableEq

namespace OrderBy

def text (o : OrderBy) : String := o.path.text ++ o.direction.suffix

end OrderBy

end ODataBuilder
