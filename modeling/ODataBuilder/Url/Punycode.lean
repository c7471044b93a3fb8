/-!
# Punycode

The bootstring encoding that writes a domain label of any characters in ASCII letters, digits
and hyphens. The ASCII characters of the label are copied first, followed by a hyphen when
there are any; each other character is then inserted by a number that says where and what,
written in a variable-length base-36 code whose thresholds adapt to the numbers seen so far.
Decoding refuses a text whose numbers do not fit 32 bits or that writes a code point that is
not a character.
-/
namespace ODataBuilder.Punycode

def digitChar (d : Nat) : Char :=
  if d < 26 then Char.ofNat (97 + d) else Char.ofNat (22 + d)

def digitValue? (c : Char) : Option Nat :=
  let n := c.toNat
  if 97 ≤ n ∧ n ≤ 122 then some (n - 97)
  else if 65 ≤ n ∧ n ≤ 90 then some (n - 65)
  else if 48 ≤ n ∧ n ≤ 57 then some (n - 22)
  else none

/-- The threshold of the digit at position `k` under `bias`: between 1 and 26. -/
def threshold (k bias : Nat) : Nat :=
  if k ≤ bias then 1 else if k ≥ bias + 26 then 26 else k - bias

theorem threshold_pos (k bias : Nat) : 1 ≤ threshold k bias := by
  unfold threshold; split <;> (try split) <;> omega

theorem threshold_le (k bias : Nat) : threshold k bias ≤ 26 := by
  unfold threshold; split <;> (try split) <;> omega

def scaleDown (delta k : Nat) : Nat × Nat :=
  if delta > 455 then scaleDown (delta / 35) (k + 36) else (delta, k)
termination_by delta
decreasing_by omega

/-- The bias after a number `delta`, with `points` characters now in the output. -/
def adapt (delta points : Nat) (first : Bool) : Nat :=
  let delta := if first then delta / 700 else delta / 2
  let delta := delta + delta / points
  let (delta, k) := scaleDown delta 0
  k + 36 * delta / (delta + 38)

def digits (bias k q : Nat) : List Char :=
  if q < threshold k bias then [digitChar q]
  else
    digitChar (threshold k bias + (q - threshold k bias) % (36 - threshold k bias)) ::
      digits bias (k + 36) ((q - threshold k bias) / (36 - threshold k bias))
termination_by q
decreasing_by
  have := threshold_pos k bias
  have : (q - threshold k bias) / (36 - threshold k bias) ≤ q - threshold k bias :=
    Nat.div_le_self _ _
  omega

/-- The state of the encoder: output so far, running delta, bias, characters handled. -/
structure Encoder where
  output : List Char
  delta : Nat
  bias : Nat
  handled : Nat

def Encoder.visit (basic m : Nat) (e : Encoder) (c : Char) : Encoder :=
  if c.toNat < m then { e with delta := e.delta + 1 }
  else if c.toNat = m then
    { output := e.output ++ digits e.bias 36 e.delta, delta := 0,
      bias := adapt e.delta (e.handled + 1) (e.handled = basic), handled := e.handled + 1 }
  else e

/-- Inserts the code points `points` (ascending, distinct), the previous one being `n - 1`. -/
def Encoder.insertAll (input : List Char) (basic : Nat) : List Nat → Nat → Encoder → Encoder
  | [], _, e => e
  | m :: rest, n, e =>
    let e := { e with delta := e.delta + (m - n) * (e.handled + 1) }
    let e := input.foldl (Encoder.visit basic m) e
    insertAll input basic rest (m + 1) { e with delta := e.delta + 1 }

def wideCodePoints (input : List Char) : List Nat :=
  ((input.map Char.toNat).filter (· ≥ 128)).mergeSort (· ≤ ·) |>.eraseDups

def encode (input : List Char) : String :=
  let basic := input.filter (·.toNat < 128)
  let start : Encoder := ⟨[], 0, 72, basic.length⟩
  let e := Encoder.insertAll input basic.length (wideCodePoints input) 128 start
  String.ofList (basic ++ (if basic.isEmpty then [] else ['-']) ++ e.output)

/-- The largest number decoding may reach: its numbers are 32-bit, and a label that needs
more is not well formed. -/
def numberLimit : Nat := 0xFFFFFFFF

/-- Reads one variable-length number onto `i` with weight `w`: the new `i` and the rest. -/
def readNumber (bias : Nat) : List Char → Nat → Nat → Nat → Option (Nat × List Char)
  | [], _, _, _ => none
  | c :: rest, k, w, i =>
    match digitValue? c with
    | none => none
    | some d =>
      let i := i + d * w
      let t := threshold k bias
      if i > numberLimit then none
      else if d < t then some (i, rest)
      else if w * (36 - t) > numberLimit then none
      else readNumber bias rest (k + 36) (w * (36 - t)) i

def insertions : Nat → List Char → List Char → Nat → Nat → Nat → Option (List Char)
  | 0, _, _, _, _, _ => none
  | _, [], output, _, _, _ => some output
  | fuel + 1, cs, output, n, i, bias => do
    let (i', rest) ← readNumber bias cs 36 1 i
    let points := output.length + 1
    let bias := adapt (i' - i) points (i = 0)
    let n := n + i' / points
    let i := i' % points
    if n > 0x10FFFF ∨ (0xD800 ≤ n ∧ n ≤ 0xDFFF) then none
    else insertions fuel rest (output.take i ++ [Char.ofNat n] ++ output.drop i) n (i + 1) bias

/-- The label a Punycode text (without `xn--`) writes, if it is well formed. -/
def decode (text : List Char) : Option (List Char) :=
  let (basic, extended) :=
    match text.reverse.dropWhile (· ≠ '-') with
    | [] => ([], text)
    | _ :: before => (before.reverse, text.drop (before.length + 1))
  if basic.any (·.toNat ≥ 128) then none
  else insertions (extended.length + 1) extended basic 128 0 72

end ODataBuilder.Punycode
