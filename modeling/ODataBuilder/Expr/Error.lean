import ODataBuilder.Expr.Method
/-!
# Errors of building and printing expressions

Building a tree can fail because an accessor names no field, a paging count is not
positive, or a call has the wrong number of arguments: these are the caller's mistakes,
of class `invalid_input`. Printing can fail only on a malformed traversal: too few fragments
for a node, or not exactly one left at the end; these break an invariant of the library,
class `invariant_violation`.
-/
namespace ODataBuilder

inductive ConstructionError where
  | unresolvablePath (accessor : String)
  | range (param : String) (value : Int)
  | arity (method : String) (expected : Arity) (found : Nat)
  deriving Repr, DecidableEq

inductive TraversalError where
  | malformedTree (residual : Nat)
  | stackUnderflow (node : String) (needed available : Nat)
  deriving Repr, DecidableEq

inductive QueryError where
  | construction (e : ConstructionError)
  | traversal (e : TraversalError)
  deriving Repr, DecidableEq

namespace ConstructionError

def message : ConstructionError → String
  | .unresolvablePath accessor =>
    "cannot find a field path for accessor (value: " ++ accessor ++ ")"
  | .range param value =>
    "parameter '" ++ param ++ "' must be greater than zero (value: " ++ toString value ++ ")"
  | .arity method expected found =>
    "method '" ++ method ++ "' takes " ++ expected.text ++ " argument(s), got " ++ toString found

def kindName : ConstructionError → String
  | .unresolvablePath _ => "UnresolvablePath"
  | .range _ _ => "Range"
  | .arity _ _ _ => "Arity"

end ConstructionError

namespace TraversalError

def message : TraversalError → String
  | .malformedTree residual =>
    "malformed expression tree: " ++ toString residual ++
      " fragment(s) remain after traversal, expected 1"
  | .stackUnderflow node needed available =>
    "malformed expression tree: " ++ node ++ " node needs " ++ toString needed ++
      " operand(s), " ++ toString available ++ " available"

def kindName : TraversalError → String
  | .malformedTree _ => "MalformedTree"
  | .stackUnderflow _ _ _ => "StackUnderflow"

end TraversalError

namespace QueryError

def message : QueryError → String
  | .construction e => e.message
  | .traversal e => e.message

def kindName : QueryError → String
  | .construction e => e.kindName
  | .traversal e => e.kindName

def errorClass : QueryError → String
  | .construction _ => "invalid_input"
  | .traversal _ => "invariant_violation"

def withClass (e : QueryError) : String :=
  e.errorClass ++ ": " ++ e.message

end QueryError

end ODataBuilder
