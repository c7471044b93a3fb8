import ODataBuilder.Expr.Basic
/-!
# Walking a tree

`Expr.walk` announces each node on entering and on leaving it, children in order, and
brackets each lambda's predicate with the opening and closing of a scope.
-/
namespace ODataBuilder

inductive WalkEvent where
  | enter (node : Expr)
  | exit (node : Expr)
  | pushScope (quantifier : Quantifier)
  | popScope
  deriving Repr, Inhabited

def WalkEvent.exitedNode? : WalkEvent → Option Expr
  | .exit node => some node
  | _ => none

namespace Expr

mutual
def walk : Expr → List WalkEvent
  | .value v => [.enter (.value v), .exit (.value v)]
  | .property p => [.enter (.property p), .exit (.property p)]
  | .unary op operand =>
    .enter (.unary op operand) :: (walk operand ++ [.exit (.unary op operand)])
  | .binary op left right =>
    .enter (.binary op left right) :: (walk left ++ walk right ++ [.exit (.binary op left right)])
  | .call method args =>
    .enter (.call method args) :: (walkAll args ++ [.exit (.call method args)])
  | .lambda q collection predicate =>
    .enter (.lambda q collection predicate) ::
      ([.enter (field collection), .exit (field collection)] ++ [.pushScope q] ++ walk predicate ++ [.popScope] ++
        [.exit (.lambda q collection predicate)])

def walkAll : List Expr → List WalkEvent
  | [] => []
  | e :: rest => walk e ++ walkAll rest
end

end Expr

namespace WalkEvent

def entered? : WalkEvent → Option String
  | .enter node => some node.kind
  | _ => none

def exited? : WalkEvent → Option String
  | .exit node => some node.kind
  | _ => none

end WalkEvent

end ODataBuilder
