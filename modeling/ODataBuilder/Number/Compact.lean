import ODataBuilder.Number.Shortest
/-!
# Compact decimal text of a binary value

The shortest digits of a finite value, written positionally when the decimal point falls
within the first sixteen places or at most five places before the first digit, and with an
exponent otherwise. A whole number keeps a trailing `.0`; an exponent is written after `e`
with its sign, `+` or `-`, and a single digit takes no point before it. Zero is `0.0`,
with a `-` when negative.
-/
namespace ODataBuilder.BinaryFloat

def zeros (n : Nat) : String := String.ofList (List.replicate n '0')

def signedExponent (k : Int) : String :=
  if k < 0 then toString k else "+" ++ toString k

def compactText (f : BinaryFormat) : BinaryFloat → String
  | .finite negative m e =>
    let sign := if negative then "-" else ""
    if m = 0 then sign ++ "0.0"
    else
      let d := f.shortest m e
      let digits := toString d.digits
      let length : Int := digits.length
      let point := length + d.exponent
      if 0 ≤ d.exponent ∧ point ≤ 16 then sign ++ digits ++ zeros d.exponent.toNat ++ ".0"
      else if 0 < point ∧ point ≤ 16 then
        sign ++ String.ofList (digits.toList.take point.toNat) ++ "." ++
          String.ofList (digits.toList.drop point.toNat)
      else if -5 < point ∧ point ≤ 0 then sign ++ "0." ++ zeros (-point).toNat ++ digits
      else if length = 1 then sign ++ digits ++ "e" ++ signedExponent (point - 1)
      else
        sign ++ String.ofList (digits.toList.take 1) ++ "." ++ String.ofList (digits.toList.drop 1) ++
          "e" ++ signedExponent (point - 1)
  | .infinite negative => if negative then "-inf" else "inf"
  | .nan => "NaN"

end ODataBuilder.BinaryFloat
