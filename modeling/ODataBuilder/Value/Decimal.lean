/-!
# Scaled decimals

A decimal number is an integer mantissa scaled by a power of ten, `mantissa · 10^(-scale)`,
with a mantissa of at most 96 bits and a scale of at most 28. Its literal text is that of its
normal form: trailing zeros of the fraction are dropped and negative zero becomes zero, so
`1.50` reads `1.5` and `-0.00` reads `0`.
-/
namespace ODataBuilder

structure ScaledDecimal where
  mantissa : Int
  scale : Nat
  deriving Repr, DecidableEq

namespace ScaledDecimal

def maxScale : Nat := 28

def ofParts? (mantissa : Int) (scale : Nat) : Option ScaledDecimal :=
  if mantissa.natAbs < Nat.pow 2 96 ∧ scale ≤ maxScale then some ⟨mantissa, scale⟩ else none

def dropZeros : Nat → ScaledDecimal → ScaledDecimal
  | 0, d => d
  | fuel + 1, d =>
    if d.scale > 0 ∧ d.mantissa % 10 = 0 then dropZeros fuel ⟨d.mantissa / 10, d.scale - 1⟩ else d

/-- The normal form: no trailing zero in the fraction, and zero has scale 0. -/
def normalize (d : ScaledDecimal) : ScaledDecimal :=
  let d := dropZeros d.scale d
  if d.mantissa = 0 then ⟨0, 0⟩ else d

/-- The digits with a point placed `scale` digits from the right, without sign. -/
def pointed (digits : String) (scale : Nat) : String :=
  if scale = 0 then digits
  else
    let padded := String.ofList (List.replicate (scale + 1 - min (scale + 1) digits.length) '0') ++ digits
    let cut := padded.length - scale
    String.ofList (padded.toList.take cut) ++ "." ++ String.ofList (padded.toList.drop cut)

def text (d : ScaledDecimal) : String :=
  let n := d.normalize
  (if n.mantissa < 0 then "-" else "") ++ pointed (toString n.mantissa.natAbs) n.scale

end ScaledDecimal

end ODataBuilder
