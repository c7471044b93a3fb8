import ODataBuilder.Expr.Basic
import ODataBuilder.Entity.Shape
/-!
# Building expressions from accessors

Predicates over an entity are built from what its accessors hand back. The path handed back
must name a field: the root path is refused as unresolvable. An operand is any expression; a
literal operand is a value leaf. In an equality or inequality, a null value operand becomes
the bare keyword `null`. Paging counts must be positive, and are kept as the count behind the
`identity` prefix, which prints nothing.
-/
namespace ODataBuilder.Expression

/-- The label an unresolvable accessor is reported under: a fixed word, since an accessor is a
closure whose type name has no stable text. -/
def accessorLabel : String := "accessor"

def resolve (token : PathToken) : Except ConstructionError FieldPath :=
  if token.path.isRoot then .error (.unresolvablePath accessorLabel) else .ok token.path

/-- Every path an accessor handed back, unless there is none or one is the root. -/
def resolveAll (tokens : List PathToken) : Except ConstructionError (List FieldPath) :=
  if tokens.isEmpty ∨ tokens.any (·.path.isRoot) then .error (.unresolvablePath accessorLabel)
  else .ok (tokens.map (·.path))

def property (token : PathToken) : Except ConstructionError Expr :=
  (resolve token).map Expr.field

/-- An operand of a comparison, with a null value turned into the keyword `null`. -/
def comparand : Expr → Expr
  | .value .null => Expr.null
  | other => other

def equals (token : PathToken) (operand : Expr) : Except ConstructionError Expr :=
  (property token).map (·.equals (comparand operand))

def notEquals (token : PathToken) (operand : Expr) : Except ConstructionError Expr :=
  (property token).map (·.notEquals (comparand operand))

def gt (token : PathToken) (v : Value) : Except ConstructionError Expr :=
  (property token).map (·.gt v)

def gte (token : PathToken) (v : Value) : Except ConstructionError Expr :=
  (property token).map (·.ge v)

def lt (token : PathToken) (v : Value) : Except ConstructionError Expr :=
  (property token).map (·.lt v)

def lte (token : PathToken) (v : Value) : Except ConstructionError Expr :=
  (property token).map (·.le v)

def callOnField (method : Method) (token : PathToken) (operand : Expr) :
    Except ConstructionError Expr :=
  (property token).map fun field => .call method [field, operand]

def contains := callOnField .contains

def startsWith := callOnField .startsWith

def endsWith := callOnField .endsWith

def indexOf := callOnField .indexOf

def len (token : PathToken) : Except ConstructionError Expr :=
  (property token).map fun field => .call .length [field]

def trim (operand : Expr) : Expr := .call .trim [operand]

def arithmetic (op : BinaryOp) (operand : Expr) (v : Value) : Expr :=
  .binary op operand (.value v)

def castField (token : PathToken) (typeName : String) : Except ConstructionError Expr :=
  (property token).map (·.castTo typeName)

def isOfField (token : PathToken) (typeName : String) : Except ConstructionError Expr :=
  (property token).map (·.isOfType typeName)

def paging (param : String) (count : Int64) : Except ConstructionError Expr :=
  if count.toInt ≤ 0 then .error (.range param count.toInt)
  else .ok (.unary .identity (.value (.int count)))

def top (count : Int64) : Except ConstructionError Expr := paging "top" count

def skip (count : Int64) : Except ConstructionError Expr := paging "skip" count

def lambda (q : Quantifier) (token : PathToken) (predicate : Expr) :
    Except ConstructionError Expr :=
  (resolve token).map fun collection => .lambda q collection predicate

end ODataBuilder.Expression
