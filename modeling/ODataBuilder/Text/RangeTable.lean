/-!
# Tables of character ranges

A character property is kept as a sorted list of inclusive ranges of code points. A table is
written compactly as text, ranges separated by commas, each a hex code point or two joined by
`-`, and read once into its list.
-/
namespace ODataBuilder.RangeTable

def hexDigitValue? (c : Char) : Option Nat :=
  if '0' ≤ c ∧ c ≤ '9' then some (c.toNat - 48)
  else if 'A' ≤ c ∧ c ≤ 'F' then some (c.toNat - 55)
  else if 'a' ≤ c ∧ c ≤ 'f' then some (c.toNat - 87)
  else none

/-- The number written in hex by a list of digits (other characters count as zero). -/
def hexValue (cs : List Char) : Nat :=
  cs.foldl (fun acc c => acc * 16 + (hexDigitValue? c).getD 0) 0

def readRange (cs : List Char) : Nat × Nat :=
  match cs.splitOn '-' with
  | [a, b] => (hexValue a, hexValue b)
  | _ => (hexValue cs, hexValue cs)

def decode (text : String) : List (Nat × Nat) :=
  (text.toList.splitOn ',').filter (· ≠ []) |>.map readRange

def contains (table : List (Nat × Nat)) (n : Nat) : Bool :=
  table.any fun (lo, hi) => lo ≤ n && n ≤ hi

end ODataBuilder.RangeTable
