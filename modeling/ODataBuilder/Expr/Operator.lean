/-!
# Operators

The binary operators of the filter language, with their symbols and precedences (from
`or`, the loosest, to `mul`, `div` and `mod`, the tightest), the prefix operators and the
two lambda quantifiers.
-/
namespace ODataBuilder

abbrev Precedence := Nat

namespace Precedence

def unary : Precedence := 7

def atom : Precedence := 255

end Precedence

inductive BinaryOp where
  | eq | ne | gt | ge | lt | le | and | or | add | sub | mul | div | mod
  deriving Repr, DecidableEq, Inhabited

namespace BinaryOp

def all : List BinaryOp := [.eq, .ne, .gt, .ge, .lt, .le, .and, .or, .add, .sub, .mul, .div, .mod]

def symbol : BinaryOp → String
  | .eq => "eq" | .ne => "ne" | .gt => "gt" | .ge => "ge" | .lt => "lt" | .le => "le"
  | .and => "and" | .or => "or" | .add => "add" | .sub => "sub" | .mul => "mul"
  | .div => "div" | .mod => "mod"

def precedence : BinaryOp → Precedence
  | .or => 1
  | .and => 2
  | .eq | .ne => 3
  | .gt | .ge | .lt | .le => 4
  | .add | .sub => 5
  | .mul | .div | .mod => 6

def isLogical : BinaryOp → Bool
  | .and | .or => true
  | _ => false

def isComparison : BinaryOp → Bool
  | .eq | .ne | .gt | .ge | .lt | .le => true
  | _ => false

def isArithmetic : BinaryOp → Bool
  | .add | .sub | .mul | .div | .mod => true
  | _ => false

def ofSymbol? (word : String) : Option BinaryOp :=
  all.find? (·.symbol == word)

end BinaryOp

inductive UnaryOp where
  | identity | not | negate
  deriving Repr, DecidableEq, Inhabited

namespace UnaryOp

def prefixText? : UnaryOp → Option String
  | .identity => none
  | .not => some "not "
  | .negate => some "-"

end UnaryOp

inductive Quantifier where
  | any | all
  deriving Repr, DecidableEq, Inhabited

namespace Quantifier

def keyword : Quantifier → String
  | .any => "any"
  | .all => "all"

def ofKeyword? : String → Option Quantifier
  | "any" => some .any
  | "all" => some .all
  | _ => none

end Quantifier

end ODataBuilder
