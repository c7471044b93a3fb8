import ODataBuilder.Number.Binary
/-!
# Rounded arithmetic on binary floating-point values

Each operation on finite values is carried out exactly on fractions, and the exact result is
rounded to the format, to nearest with ties to even: the result an IEEE 754 operation gives.
The operations are meant for finite operands; an infinite or NaN operand counts as zero.
-/
namespace ODataBuilder

namespace BinaryFloat

def toRatio : BinaryFloat → Int × Nat
  | .finite negative m e =>
    let (num, den) := scaledByTwo m e
    ((if negative then -(num : Int) else num), den)
  | _ => (0, 1)

def ofRatio (f : BinaryFormat) (num : Int) (den : Nat) : BinaryFloat :=
  f.roundRatio (num < 0) num.natAbs den

def ofNat (f : BinaryFormat) (k : Nat) : BinaryFloat := ofRatio f k 1

def add (f : BinaryFormat) (x y : BinaryFloat) : BinaryFloat :=
  let (a, b) := x.toRatio
  let (c, d) := y.toRatio
  ofRatio f (a * d + c * b) (b * d)

def sub (f : BinaryFormat) (x y : BinaryFloat) : BinaryFloat :=
  let (a, b) := x.toRatio
  let (c, d) := y.toRatio
  ofRatio f (a * d - c * b) (b * d)

def mul (f : BinaryFormat) (x y : BinaryFloat) : BinaryFloat :=
  let (a, b) := x.toRatio
  let (c, d) := y.toRatio
  ofRatio f (a * c) (b * d)

def div (f : BinaryFormat) (x y : BinaryFloat) : BinaryFloat :=
  let (a, b) := x.toRatio
  let (c, d) := y.toRatio
  let num := a * d
  ofRatio f (if c < 0 then -num else num) (b * c.natAbs)

def lt (x y : BinaryFloat) : Bool :=
  let (a, b) := x.toRatio
  let (c, d) := y.toRatio
  a * d < c * b

end BinaryFloat

end ODataBuilder
