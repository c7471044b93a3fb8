import ODataBuilder.Value.Basic
import ODataBuilder.Path.Basic
import ODataBuilder.Expr.Operator
import ODataBuilder.Expr.Error
/-!
# Expression trees

Literal values and properties at the leaves, prefix and binary operators, method calls and
lambdas over a collection field. `Expr.call?` checks a call against the method's arity.
-/
namespace ODataBuilder

/-- A leaf that is not a value: a field, or a keyword written verbatim. -/
inductive Property where
  | field (path : FieldPath)
  | keyword (word : String)
  deriving Repr, DecidableEq

inductive Expr where
  | value (value : Value)
  | property (property : Property)
  | unary (op : UnaryOp) (operand : Expr)
  | binary (op : BinaryOp) (left right : Expr)
  | call (method : Method) (args : List Expr)
  | lambda (quantifier : Quantifier) (collection : FieldPath) (predicate : Expr)
  deriving Repr, Inhabited

namespace Expr

def null : Expr := .property (.keyword "null")

def field (path : FieldPath) : Expr := .property (.field path)

def keyword (word : String) : Expr := .property (.keyword word)

def call? (method : Method) (args : List Expr) : Except ConstructionError Expr :=
  if method.arity.accepts args.length then .ok (.call method args)
  else .error (.arity method.name method.arity args.length)

def kind : Expr → String
  | .value _ => "value"
  | .property _ => "property"
  | .unary _ _ => "unary"
  | .binary _ _ _ => "binary"
  | .call _ _ => "method"
  | .lambda _ _ _ => "lambda"

def need : Expr → Nat
  | .value _ => 0
  | .property _ => 0
  | .unary _ _ => 1
  | .binary _ _ _ => 2
  | .call _ args => args.length
  | .lambda _ _ _ => 2

def and (self other : Expr) : Expr := .binary .and self other

def or (self other : Expr) : Expr := .binary .or self other

def equals (self other : Expr) : Expr := .binary .eq self other

def notEquals (self other : Expr) : Expr := .binary .ne self other

def gt (self : Expr) (v : Value) : Expr := .binary .gt self (.value v)

def ge (self : Expr) (v : Value) : Expr := .binary .ge self (.value v)

def lt (self : Expr) (v : Value) : Expr := .binary .lt self (.value v)

def le (self : Expr) (v : Value) : Expr := .binary .le self (.value v)

def substring (self start : Expr) (length : Option Expr) : Expr :=
  .call .substring ([self, start] ++ length.toList)

def isOf (typeName : String) : Expr := .call .isOf [keyword typeName]

def isOfType (self : Expr) (typeName : String) : Expr := .call .isOf [self, keyword typeName]

def cast (typeName : String) : Expr := .call .cast [keyword typeName]

def castTo (self : Expr) (typeName : String) : Expr := .call .cast [self, keyword typeName]

def now : Expr := .call .now []

def foldAnd : List Expr → Option Expr
  | [] => none
  | first :: rest => some (rest.foldl Expr.and first)

end Expr

end ODataBuilder
