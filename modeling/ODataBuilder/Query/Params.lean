import ODataBuilder.Text.Percent
/-!
# Query options

The nine system query options, each at most once, emitted in one canonical order and joined
as percent-encoded `key=value` pairs, with every `%20` then written `+`.
-/
namespace ODataBuilder

inductive QueryOption where
  | search | filter | select | top | skip | inlineCount | orderBy | expand | count
  deriving Repr, DecidableEq

namespace QueryOption

def all : List QueryOption := [.search, .filter, .select, .top, .skip, .inlineCount, .orderBy, .expand, .count]

def key : QueryOption → String
  | .search => "$search"
  | .filter => "$filter"
  | .select => "$select"
  | .top => "$top"
  | .skip => "$skip"
  | .inlineCount => "$inlinecount"
  | .orderBy => "$orderby"
  | .expand => "$expand"
  | .count => "$count"

end QueryOption

structure QueryParams where
  search : Option String := none
  filter : Option String := none
  select : Option String := none
  top : Option String := none
  skip : Option String := none
  inlineCount : Option String := none
  orderBy : Option String := none
  expand : Option String := none
  count : Option String := none
  deriving Repr, DecidableEq

namespace QueryParams

def get? (p : QueryParams) : QueryOption → Option String
  | .search => p.search
  | .filter => p.filter
  | .select => p.select
  | .top => p.top
  | .skip => p.skip
  | .inlineCount => p.inlineCount
  | .orderBy => p.orderBy
  | .expand => p.expand
  | .count => p.count

def entries (p : QueryParams) : List (QueryOption × String) :=
  QueryOption.all.filterMap fun o => (p.get? o).map fun v => (o, v)

def contains (p : QueryParams) (o : QueryOption) : Bool := (p.get? o).isSome

def size (p : QueryParams) : Nat := p.entries.length

def isEmpty (p : QueryParams) : Bool := p.entries.isEmpty

def plusForSpace : List Char → List Char
  | '%' :: '2' :: '0' :: rest => '+' :: plusForSpace rest
  | c :: rest => c :: plusForSpace rest
  | [] => []

def encode (p : QueryParams) : String :=
  let pairs := p.entries.map fun (o, v) => Percent.encode o.key ++ "=" ++ Percent.encode v
  String.ofList (plusForSpace ("&".intercalate pairs).toList)

end QueryParams

end ODataBuilder
