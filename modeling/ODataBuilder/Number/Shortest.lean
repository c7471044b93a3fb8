import ODataBuilder.Number.Binary
/-!
# Shortest decimal text of a binary value

The shortest decimal that rounds back to the value is found grid by grid, from coarse to
fine; `BinaryFloat.decimalText` writes it positionally, without an exponent.
-/
namespace ODataBuilder

/-- Shortest digits `d` and grid exponent `j`, meaning the value `d · 10^j`. -/
structure DecimalDigits where
  digits : Nat
  exponent : Int
  deriving Repr, DecidableEq

namespace DecimalDigits

def trim (d : DecimalDigits) (fuel : Nat) : DecimalDigits :=
  match fuel with
  | 0 => d
  | fuel + 1 =>
    if d.digits ≠ 0 ∧ d.digits % 10 = 0 then trim ⟨d.digits / 10, d.exponent + 1⟩ fuel else d

def positional (d : DecimalDigits) : String :=
  let text := toString d.digits
  if 0 ≤ d.exponent then text ++ String.ofList (List.replicate d.exponent.toNat '0')
  else
    let point := (-d.exponent).toNat
    if point < text.length then
      String.ofList (text.toList.take (text.length - point)) ++ "." ++
        String.ofList (text.toList.drop (text.length - point))
    else "0." ++ String.ofList (List.replicate (point - text.length) '0') ++ text

end DecimalDigits

namespace BinaryFormat

def gridExponents (f : BinaryFormat) : List Int :=
  let top : Int := f.decimalReach
  let bottom : Int := -((f.minExponent.natAbs * 3 / 10 : Nat) + 4 : Int)
  (List.range (top - bottom + 1).toNat).map fun (i : Nat) => top - Int.ofNat i

/-- The rounding interval of `m · 2^e` as numerators over the unit `2^(e-2)`: below, value,
above. The gap below is half as wide at the bottom of a binade. -/
def interval (f : BinaryFormat) (m : Nat) (e : Int) : Nat × Nat × Nat :=
  let below := if m = Nat.pow 2 (f.precision - 1) ∧ e > f.minExponent then 4 * m - 1 else 4 * m - 2
  (below, 4 * m, 4 * m + 2)

/-- The decision on the grid `10^j`: the chosen multiple of `10^j`, if one of the value's two
neighbours on that grid lies in the interval. -/
def pickOnGrid (f : BinaryFormat) (m : Nat) (e : Int) (j : Int) : Option Nat :=
  let (low, value, high) := f.interval m e
  let inclusive := m % 2 = 0
  -- every quantity is a numerator over `den`, in units of `10^j`
  let up2 := scaledByTwo 1 (e - 2)
  let up10 := if j < 0 then Nat.pow 10 (-j).toNat else 1
  let den := up2.2 * (if 0 ≤ j then Nat.pow 10 j.toNat else 1)
  let scale := up2.1 * up10
  let v := value * scale
  let q := v / den
  let lowN := low * scale
  let highN := high * scale
  let down := if inclusive then q * den ≥ lowN else q * den > lowN
  let up := if inclusive then (q + 1) * den ≤ highN else (q + 1) * den < highN
  let down := down ∧ q ≠ 0
  if up ∧ (!down ∨ 2 * (v - q * den) ≥ den) then some (q + 1)
  else if down then some q
  else none

/-- The first grid, coarse to fine, that holds a decimal rounding back to `m · 2^e`. -/
def firstHit (f : BinaryFormat) (m : Nat) (e : Int) : List Int → Option DecimalDigits
  | [] => none
  | j :: rest =>
    match f.pickOnGrid m e j with
    | some d => some ⟨d, j⟩
    | none => f.firstHit m e rest

/-- The shortest decimal that rounds back to the finite nonzero `m · 2^e`. -/
def shortest (f : BinaryFormat) (m : Nat) (e : Int) : DecimalDigits :=
  match f.firstHit m e f.gridExponents with
  | some d => d.trim 400
  | none => ⟨m, 0⟩

end BinaryFormat

namespace BinaryFloat

/-- The positional decimal text of a finite value in format `f` (`none` for NaN and
the infinities). -/
def decimalText (f : BinaryFormat) : BinaryFloat → Option String
  | .finite negative m e =>
    let sign := if negative then "-" else ""
    if m = 0 then some (sign ++ "0")
    else some (sign ++ (f.shortest m e).positional)
  | _ => none

end BinaryFloat

end ODataBuilder
