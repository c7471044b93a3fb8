import ODataBuilder.Expr.Factory
import ODataBuilder.Expr.Serializer
import ODataBuilder.Query.Params
import ODataBuilder.Query.Order
/-!
# Building queries

Each step either records its part or fails and leaves the builder as it was. Predicates are
joined with `and`; a later step of any other kind replaces the earlier one.
-/
namespace ODataBuilder

structure QueryBuilder where
  filters : List Expr := []
  top : Option Expr := none
  skip : Option Expr := none
  orderBy : Option String := none
  select : Option String := none
  expand : Option String := none
  inlineCount : Bool := false
  count : Bool := false
  search : Option String := none
  raw : Option String := none
  deriving Inhabited

/-- A built query: compiled options, or a raw text given by the caller. -/
inductive Query where
  | compiled (params : QueryParams)
  | raw (text : String)
  deriving Repr, DecidableEq

namespace Query

def queryString : Query → String
  | .compiled params => params.encode
  | .raw text => text

def isRaw : Query → Bool
  | .raw _ => true
  | .compiled _ => false

def params? : Query → Option QueryParams
  | .compiled params => some params
  | .raw _ => none

end Query

namespace QueryBuilder

def expandKeyword : String := "$expand"

def selectKeyword : String := "$select"

def filter (b : QueryBuilder) (predicate : Expr) : QueryBuilder :=
  { b with filters := b.filters ++ [predicate] }

def addPredicate (b : QueryBuilder) (built : Except ConstructionError Expr) :
    Except QueryError QueryBuilder :=
  match built with
  | .ok predicate => .ok (b.filter predicate)
  | .error e => .error (.construction e)

def equals (b : QueryBuilder) (token : PathToken) (operand : Expr) : Except QueryError QueryBuilder :=
  b.addPredicate (Expression.equals token operand)

def notEquals (b : QueryBuilder) (token : PathToken) (operand : Expr) : Except QueryError QueryBuilder :=
  b.addPredicate (Expression.notEquals token operand)

def contains (b : QueryBuilder) (token : PathToken) (operand : Expr) : Except QueryError QueryBuilder :=
  b.addPredicate (Expression.contains token operand)

def lt (b : QueryBuilder) (token : PathToken) (v : Value) : Except QueryError QueryBuilder :=
  b.addPredicate (Expression.lt token v)

def lte (b : QueryBuilder) (token : PathToken) (v : Value) : Except QueryError QueryBuilder :=
  b.addPredicate (Expression.lte token v)

def gt (b : QueryBuilder) (token : PathToken) (v : Value) : Except QueryError QueryBuilder :=
  b.addPredicate (Expression.gt token v)

def gte (b : QueryBuilder) (token : PathToken) (v : Value) : Except QueryError QueryBuilder :=
  b.addPredicate (Expression.gte token v)

def lambda (b : QueryBuilder) (q : Quantifier) (token : PathToken) (predicate : Expr) :
    Except QueryError QueryBuilder :=
  b.addPredicate (Expression.lambda q token predicate)

def multiply (b : QueryBuilder) (operand : Expr) (v : Value) : QueryBuilder :=
  b.filter (Expression.arithmetic .mul operand v)

def setTop (b : QueryBuilder) (n : Int64) : Except QueryError QueryBuilder :=
  match Expression.top n with
  | .ok e => .ok { b with top := some e }
  | .error e => .error (.construction e)

def setSkip (b : QueryBuilder) (n : Int64) : Except QueryError QueryBuilder :=
  match Expression.skip n with
  | .ok e => .ok { b with skip := some e }
  | .error e => .error (.construction e)

def withInlineCount (b : QueryBuilder) : QueryBuilder := { b with inlineCount := true }

def withCount (b : QueryBuilder) : QueryBuilder := { b with count := true }

def withSearch (b : QueryBuilder) (text : String) : QueryBuilder := { b with search := some text }

def joinPaths (paths : List FieldPath) : String := ",".intercalate (paths.map FieldPath.text)

/-- Sets the ordering from the paths an accessor hands back, all in one direction. -/
def setOrder (b : QueryBuilder) (tokens : List PathToken) (direction : SortDirection) :
    Except QueryError QueryBuilder :=
  match Expression.resolveAll tokens with
  | .ok paths => .ok { b with orderBy := some (joinPaths paths ++ direction.suffix) }
  | .error e => .error (.construction e)

/-- Sets the ordering from explicit orderings; no ordering clears it. A root path is refused,
reported by its place in the list. -/
def orderByList (b : QueryBuilder) (orders : List OrderBy) : Except QueryError QueryBuilder :=
  match orders.findIdx? (·.path.isRoot) with
  | some index =>
    .error (.construction (.unresolvablePath ("order_by_builder[" ++ toString index ++ "]")))
  | none =>
    .ok { b with orderBy := if orders.isEmpty then none else some (",".intercalate (orders.map OrderBy.text)) }

def setSelect (b : QueryBuilder) (tokens : List PathToken) : Except QueryError QueryBuilder :=
  match Expression.resolveAll tokens with
  | .ok paths => .ok { b with select := some (joinPaths paths) }
  | .error e => .error (.construction e)

def setExpand (b : QueryBuilder) (token : PathToken) (keyword : String) :
    Except QueryError QueryBuilder :=
  match Expression.resolve token with
  | .ok path => .ok { b with expand := some (path.nestedForm keyword) }
  | .error e => .error (.construction e)

def withRaw (b : QueryBuilder) (text : String) : QueryBuilder := { b with raw := some text }

def printed (lambdaPrefix : String) (e : Expr) : Except QueryError String :=
  match Serializer.render lambdaPrefix e with
  | .ok text => .ok text
  | .error e => .error (.traversal e)

def printedOpt (lambdaPrefix : String) : Option Expr → Except QueryError (Option String)
  | none => .ok none
  | some e => (printed lambdaPrefix e).map some

def compile (b : QueryBuilder) (lambdaPrefix : String) : Except QueryError QueryParams := do
  let filter ← printedOpt lambdaPrefix (Expr.foldAnd b.filters)
  let top ← printedOpt lambdaPrefix b.top
  let skip ← printedOpt lambdaPrefix b.skip
  .ok { search := b.search, filter := filter, select := b.select, top := top, skip := skip,
        inlineCount := if b.inlineCount then some "allpages" else none,
        orderBy := b.orderBy, expand := b.expand,
        count := if b.count then some "true" else none }

def params (b : QueryBuilder) : Except QueryError QueryParams := b.compile "x"

/-- The query: the raw text if one was given, else the compiled options. -/
def buildWith (b : QueryBuilder) (lambdaPrefix : String) : Except QueryError Query :=
  match b.raw with
  | some text => .ok (.raw text)
  | none => (b.compile lambdaPrefix).map .compiled

def build (b : QueryBuilder) : Except QueryError Query := b.buildWith "x"

end QueryBuilder

end ODataBuilder
