/-!
# Binary floating-point values

Signed finite values `m · 2^e` kept normalised, infinities and NaN. `BinaryFormat.round`
rounds a decimal numeral to nearest, ties to even, in exact arithmetic.
-/
namespace ODataBuilder

/-- A binary interchange format: its precision and its exponent range, as the exponent of
the unit in the last place of the least subnormal and of the greatest finite value. -/
structure BinaryFormat where
  precision : Nat
  minExponent : Int
  maxExponent : Int
  deriving Repr, DecidableEq

namespace BinaryFormat

def double : BinaryFormat := ⟨53, -1074, 971⟩

def single : BinaryFormat := ⟨24, -149, 104⟩

end BinaryFormat

inductive BinaryFloat where
  | finite (negative : Bool) (mantissa : Nat) (exponent : Int)
  | infinite (negative : Bool)
  | nan
  deriving Repr, DecidableEq, Inhabited

namespace BinaryFloat

def isZero : BinaryFloat → Bool
  | .finite _ m _ => m == 0
  | _ => false

def negate : BinaryFloat → BinaryFloat
  | .finite negative m e => .finite (!negative) m e
  | .infinite negative => .infinite (!negative)
  | .nan => .nan

def signBit : BinaryFloat → Bool
  | .finite negative _ _ => negative
  | .infinite negative => negative
  | .nan => false

end BinaryFloat

/-- `n · 2^k` for an integer `k`, as the exact quotient `num / den` of naturals. -/
def scaledByTwo (n : Nat) (k : Int) : Nat × Nat :=
  if 0 ≤ k then (n * Nat.pow 2 k.toNat, 1) else (n, Nat.pow 2 (-k).toNat)

namespace BinaryFormat

/-- The greatest `t` with `2^t ≤ num / den`, for `0 < num` and `0 < den`. -/
def floorLog2 (num den : Nat) : Int :=
  let t : Int := (num.log2 : Int) - (den.log2 : Int)
  let (a, b) := scaledByTwo den t
  -- `2^t ≤ num / den` iff `den · 2^t ≤ num`, that is `a ≤ num · b`
  if a ≤ num * b then t else t - 1

/-- The positive rational `num / den` rounded to the format, ties to even. -/
def roundRatio (f : BinaryFormat) (negative : Bool) (num den : Nat) : BinaryFloat :=
  if num = 0 ∨ den = 0 then .finite negative 0 f.minExponent
  else
    let e := max f.minExponent (floorLog2 num den - ((f.precision : Int) - 1))
    -- `num / den = (num · b) / (den · a) · 2^e` where `2^e = a / b`
    let (a, b) := scaledByTwo 1 e
    let top := num * b
    let bottom := den * a
    let q := top / bottom
    let r := top % bottom
    let q := if 2 * r > bottom ∨ (2 * r = bottom ∧ q % 2 = 1) then q + 1 else q
    let (q, e) := if q = Nat.pow 2 f.precision then (Nat.pow 2 (f.precision - 1), e + 1) else (q, e)
    if e > f.maxExponent then .infinite negative
    else .finite negative q e

def decimalReach (f : BinaryFormat) : Nat :=
  (f.maxExponent.toNat + f.precision) / 3 + 10

def round (f : BinaryFormat) (negative : Bool) (d : Nat) (k : Int) : BinaryFloat :=
  if d = 0 then .finite negative 0 f.minExponent
  else
    let size : Int := (toString d).length
    if k + size > (f.decimalReach : Int) then .infinite negative
    else if k + size < -((f.decimalReach : Int) + f.minExponent.natAbs / 3) then
      .finite negative 0 f.minExponent
    else if 0 ≤ k then f.roundRatio negative (d * Nat.pow 10 k.toNat) 1
    else f.roundRatio negative d (Nat.pow 10 (-k).toNat)

def digitValue? (c : Char) : Option Nat :=
  if c.isDigit then some (c.toNat - 48) else none

/-- Reads a run of decimal digits: their number, their value and the rest. -/
def readDigits : List Char → Nat → Nat → Nat × Nat × List Char
  | [], count, value => (count, value, [])
  | c :: rest, count, value =>
    match digitValue? c with
    | some d => readDigits rest (count + 1) (value * 10 + d)
    | none => (count, value, c :: rest)

def lowerAscii (cs : List Char) : List Char :=
  cs.map Char.toLower

/-- Reads an unsigned numeral: digits, an optional point with digits, an optional exponent.
Gives the digits as one natural and the decimal exponent that scales them. -/
def readUnsigned (cs : List Char) : Option (Nat × Int) :=
  let (wholeCount, whole, rest) := readDigits cs 0 0
  let (fracCount, value, rest) :=
    match rest with
    | '.' :: after =>
      let (count, value, rest) := readDigits after 0 whole
      (count, value, rest)
    | _ => (0, whole, rest)
  if wholeCount + fracCount = 0 then none
  else
    let scale : Int := -(fracCount : Int)
    match rest with
    | [] => some (value, scale)
    | c :: after =>
      if c = 'e' ∨ c = 'E' then
        let (expNegative, digits) :=
          match after with
          | '-' :: more => (true, more)
          | '+' :: more => (false, more)
          | more => (false, more)
        let (expCount, exponent, tail) := readDigits digits 0 0
        if expCount = 0 ∨ !tail.isEmpty then none
        else some (value, scale + (if expNegative then -(exponent : Int) else exponent))
      else none

def parse? (f : BinaryFormat) (text : String) : Option BinaryFloat :=
  let (negative, body) :=
    match text.toList with
    | '-' :: rest => (true, rest)
    | '+' :: rest => (false, rest)
    | rest => (false, rest)
  let word := lowerAscii body
  if word = "inf".toList ∨ word = "infinity".toList then some (.infinite negative)
  else if word = "nan".toList then some .nan
  else (readUnsigned body).map fun (d, k) => f.round negative d k

end BinaryFormat

end ODataBuilder
