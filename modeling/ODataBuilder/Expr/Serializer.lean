import ODataBuilder.Expr.Visit
import ODataBuilder.Value.Literal
/-!
# Printing by a stack of fragments

Each node left pops its operands' fragments and pushes its own, parenthesising operands that
bind looser (the right one also when equal); scopes name lambda variables by depth, and the
first fault sticks.
-/
namespace ODataBuilder

structure Fragment where
  text : String
  precedence : Precedence
  deriving Repr, DecidableEq

namespace Fragment

def atom (text : String) : Fragment := ⟨text, Precedence.atom⟩

/-- The text, parenthesised when it binds looser than `parent` (or no tighter, when
`strict`). -/
def wrapped (f : Fragment) (parent : Precedence) (strict : Bool) : String :=
  let needs := if strict then f.precedence ≤ parent else f.precedence < parent
  if needs then "(" ++ f.text ++ ")" else f.text

end Fragment

def lambdaVariable (pre : String) (depth : Nat) : String :=
  if depth = 0 then pre else pre ++ toString depth

def propertyText (scopes : List String) : Property → String
  | .keyword word => word
  | .field path =>
    match scopes with
    | [] => path.text
    | innermost :: _ => innermost ++ "/" ++ path.text

/-- The fragment a node leaves behind, from the fragments of its operands (in order). -/
def nodeFragment (varPrefix : String) (scopes : List String) (node : Expr)
    (operands : List Fragment) : Fragment :=
  match node, operands with
  | .value v, _ => .atom v.literal
  | .property p, _ => .atom (propertyText scopes p)
  | .unary op _, [operand] =>
    match op.prefixText? with
    | none => operand
    | some pre => ⟨pre ++ operand.wrapped Precedence.unary false, Precedence.unary⟩
  | .binary op _ _, [left, right] =>
    ⟨left.wrapped op.precedence false ++ " " ++ op.symbol ++ " " ++
      right.wrapped op.precedence true, op.precedence⟩
  | .call method _, args => .atom (method.name ++ "(" ++ ",".intercalate (args.map (·.text)) ++ ")")
  | .lambda q _ _, [collection, predicate] =>
    .atom (collection.text ++ "/" ++ q.keyword ++ "(" ++ lambdaVariable varPrefix scopes.length ++
      ":" ++ predicate.text ++ ")")
  | _, _ => .atom ""

/-- The printer's state: the variable prefix, the fragments (top first), the open scopes
(innermost first) and the first fault. -/
structure Serializer where
  varPrefix : String
  stack : List Fragment
  scopes : List String
  fault : Option TraversalError
  deriving Repr

namespace Serializer

def new (varPrefix : String) : Serializer := ⟨varPrefix, [], [], none⟩

def exit (s : Serializer) (node : Expr) : Serializer :=
  match s.fault with
  | some _ => s
  | none =>
    let need := node.need
    if s.stack.length < need then
      { s with fault := some (.stackUnderflow node.kind need s.stack.length) }
    else
      let operands := (s.stack.take need).reverse
      { s with stack := nodeFragment s.varPrefix s.scopes node operands :: s.stack.drop need }

def pushScope (s : Serializer) : Serializer :=
  { s with scopes := lambdaVariable s.varPrefix s.scopes.length :: s.scopes }

def popScope (s : Serializer) : Serializer :=
  { s with scopes := s.scopes.drop 1 }

def step (s : Serializer) : WalkEvent → Serializer
  | .enter _ => s
  | .exit node => s.exit node
  | .pushScope _ => s.pushScope
  | .popScope => s.popScope

def run (s : Serializer) (events : List WalkEvent) : Serializer :=
  events.foldl step s

def result (s : Serializer) : Except TraversalError String :=
  match s.fault with
  | some e => .error e
  | none =>
    match s.stack with
    | [f] => .ok f.text
    | stack => .error (.malformedTree stack.length)

def render (varPrefix : String) (e : Expr) : Except TraversalError String :=
  ((new varPrefix).run e.walk).result

end Serializer

namespace Expr

def display (e : Expr) : String :=
  match Serializer.render "x" e with
  | .ok text => text
  | .error _ => ""

end Expr

end ODataBuilder
