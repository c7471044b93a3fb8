import ODataBuilder.Number.Exact
/-!
# Similarity of names

Jaro and Jaro–Winkler similarity, computed in binary64 in a fixed order of operations.
`Similarity.closest` picks the first most similar candidate above 0.8.
-/
namespace ODataBuilder

namespace Similarity

def format : BinaryFormat := BinaryFormat.double

def decimal (d : Nat) (k : Int) : BinaryFloat := format.round false d k

/-- The first place `j` in `[lo, hi)` where `b` holds `c` and no match was made yet. -/
def freePlace (lo hi : Nat) (c : Char) (b : List Char) (taken : List Bool) : Option Nat :=
  (List.range hi).find? fun j => lo ≤ j && b[j]? == some c && taken[j]? == some false

/-- Matches the characters of `a` (the first at place `i`) against `b` within `range`
places: the places of `b` taken, and the matched characters of `a` in order. -/
def matchAll (range : Nat) (b : List Char) : List Char → Nat → List Bool → List Bool × List Char
  | [], _, taken => (taken, [])
  | c :: rest, i, taken =>
    match freePlace (i - range) (min b.length (i + range + 1)) c b taken with
    | some j =>
      let (taken, matched) := matchAll range b rest (i + 1) (taken.set j true)
      (taken, c :: matched)
    | none => matchAll range b rest (i + 1) taken

def jaro (a b : List Char) : BinaryFloat :=
  if a.isEmpty && b.isEmpty then .ofNat format 1
  else if a.isEmpty || b.isEmpty then .ofNat format 0
  else
    let range := max a.length b.length / 2 - 1
    let (taken, matchedA) := matchAll range b a 0 (List.replicate b.length false)
    let matchedB := (b.zip taken).filterMap fun (ch, t) => if t then some ch else none
    let m := matchedA.length
    if m == 0 then .ofNat format 0
    else
      let t := ((matchedA.zip matchedB).countP fun (x, y) => x != y) / 2
      let share (k n : Nat) := BinaryFloat.div format (.ofNat format k) (.ofNat format n)
      let total := BinaryFloat.add format
        (BinaryFloat.add format (share m a.length) (share m b.length)) (share (m - t) m)
      BinaryFloat.div format total (.ofNat format 3)

def jaroWinkler (a b : List Char) : BinaryFloat :=
  let sim := jaro a b
  if BinaryFloat.lt (decimal 7 (-1)) sim then
    let prefixLength := (((a.take 4).zip b).takeWhile fun (x, y) => x == y).length
    let boost := BinaryFloat.mul format
      (BinaryFloat.mul format (decimal 1 (-1)) (.ofNat format prefixLength))
      (BinaryFloat.sub format (.ofNat format 1) sim)
    BinaryFloat.add format sim boost
  else sim

def closest (name : String) (candidates : List String) : Option String :=
  let threshold := decimal 8 (-1)
  let pick (best : Option (BinaryFloat × String)) (c : String) :=
    let score := jaroWinkler name.toList c.toList
    if BinaryFloat.lt threshold score then
      match best with
      | some (s, _) => if BinaryFloat.lt s score then some (score, c) else best
      | none => some (score, c)
    else best
  (candidates.foldl pick none).map (·.2)

end Similarity

end ODataBuilder
