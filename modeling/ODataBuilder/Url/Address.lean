import ODataBuilder.Url.Error
import ODataBuilder.Text.RangeTable
/-!
# IP addresses in hosts

IPv4 hosts of up to four numbers in decimal, octal or hex, written back as four decimal bytes;
IPv6 addresses of eight hex groups, written back with the first longest zero run as `::`.
-/
namespace ODataBuilder

namespace Ipv4

def digit? (radix : Nat) (c : Char) : Option Nat :=
  match RangeTable.hexDigitValue? c with
  | some d => if d < radix then some d else none
  | none => none

/-- The number one part writes: `none` when it is not a number, `some none` when it does
not fit 32 bits. -/
def number? (part : List Char) : Option (Option Nat) :=
  if part.isEmpty then none
  else
    let (radix, digits) : Nat × List Char :=
      match part with
      | '0' :: 'x' :: rest => (16, rest)
      | '0' :: 'X' :: rest => (16, rest)
      | '0' :: rest@(_ :: _) => (8, rest)
      | _ => (10, part)
    match digits.mapM (digit? radix) with
    | none => none
    | some ds =>
      let value := ds.foldl (fun acc d => acc * radix + d) 0
      some (if value < Nat.pow 2 32 then some value else none)

/-- Whether a domain ends in a number, and so must be read as an IPv4 address. -/
def endsInNumber (domain : List Char) : Bool :=
  match (domain.splitOn '.').reverse with
  | last :: before =>
    let candidate := if last.isEmpty then before.head? else some last
    match candidate with
    | none => false
    | some part => (!part.isEmpty && part.all Char.isDigit) || (number? part).isSome
  | [] => false

def combine (leading : List Nat) (last : Nat) : Nat :=
  (leading.zipIdx.map fun (n, i) => n * Nat.pow 256 (3 - i)).foldl (· + ·) last

def parse (domain : List Char) : Except UrlError Nat :=
  let parts := domain.splitOn '.'
  let parts := if parts.getLast? == some [] then parts.dropLast else parts
  if parts.length > 4 then .error .invalidIpv4
  else
    match parts.mapM number? with
    | none => .error .invalidIpv4
    | some found =>
      match found.mapM id with
      | none => .error .invalidIpv4
      | some numbers =>
        match numbers.reverse with
        | [] => .error .invalidIpv4
        | last :: before =>
          let leading := before.reverse
          if last ≥ Nat.pow 256 (4 - leading.length) then .error .invalidIpv4
          else if leading.any (· > 255) then .error .invalidIpv4
          else .ok (combine leading last)

def text (address : Nat) : String :=
  ".".intercalate ([3, 2, 1, 0].map fun i => toString (address / Nat.pow 256 i % 256))

end Ipv4

namespace Ipv6

/-- Reads up to `count` hex digits onto `value`: the value, the digits read, the rest. -/
def hexRun : Nat → List Char → Nat → Nat → Nat × Nat × List Char
  | 0, cs, value, read => (value, read, cs)
  | _ + 1, [], value, read => (value, read, [])
  | count + 1, c :: rest, value, read =>
    match RangeTable.hexDigitValue? c with
    | some d => hexRun count rest (value * 16 + d) (read + 1)
    | none => (value, read, c :: rest)

/-- Reads a decimal byte of a dotted tail: no leading zero, at most 255. -/
def decimalByte : List Char → Option Nat → Option (Nat × List Char)
  | [], acc => acc.map fun n => (n, [])
  | c :: rest, acc =>
    if c.isDigit then
      let d := c.toNat - 48
      match acc with
      | none => decimalByte rest (some d)
      | some 0 => none
      | some n => if n * 10 + d > 255 then none else decimalByte rest (some (n * 10 + d))
    else acc.map fun n => (n, c :: rest)

/-- Reads the dotted tail `a.b.c.d` of an address as its last two groups. -/
def dottedTail (cs : List Char) : Option (Nat × Nat) := do
  let (a, r) ← decimalByte cs none
  let r ← match r with | '.' :: more => some more | _ => none
  let (b, r) ← decimalByte r none
  let r ← match r with | '.' :: more => some more | _ => none
  let (c, r) ← decimalByte r none
  let r ← match r with | '.' :: more => some more | _ => none
  let (d, r) ← decimalByte r none
  if r.isEmpty then some (a * 256 + b, c * 256 + d) else none

/-- Reads groups, given the groups so far and where `::` stood, if it did. -/
def groups : Nat → List Char → List Nat → Option Nat → Except UrlError (List Nat × Option Nat)
  | 0, _, _, _ => .error .invalidIpv6
  | _, [], written, compress => .ok (written, compress)
  | fuel + 1, c :: rest, written, compress =>
    if written.length = 8 then .error .invalidIpv6
    else if c = ':' then
      if compress.isSome then .error .invalidIpv6
      else groups fuel rest (written ++ [0]) (some (written.length + 1))
    else
      let (value, read, after) := hexRun 4 (c :: rest) 0 0
      match after with
      | '.' :: _ =>
        if read = 0 ∨ written.length > 6 then .error .invalidIpv6
        else
          match dottedTail (c :: rest) with
          | some (high, low) => .ok (written ++ [high, low], compress)
          | none => .error .invalidIpv6
      | ':' :: more =>
        if more.isEmpty then .error .invalidIpv6
        else groups fuel more (written ++ [value]) compress
      | [] => .ok (written ++ [value], compress)
      | _ => .error .invalidIpv6

def parse (cs : List Char) : Except UrlError (List Nat) := do
  let (written, compress) ←
    match cs with
    | ':' :: ':' :: rest => groups (rest.length + 1) rest [0] (some 1)
    | ':' :: _ => .error .invalidIpv6
    | _ => groups (cs.length + 1) cs [] none
  match compress with
  | some k =>
    .ok (written.take k ++ List.replicate (8 - written.length) 0 ++ written.drop k)
  | none => if written.length = 8 then .ok written else .error .invalidIpv6

def hexText (n : Nat) : String :=
  String.ofList (Nat.toDigits 16 n)

/-- The start and length of the first longest run of zero groups: a run is only beaten by a
strictly longer one, and a start inside a run sees a shorter run. -/
def longestZeros (pieces : List Nat) : Option (Nat × Nat) :=
  (List.range pieces.length).foldl (fun best i =>
    let run := ((pieces.drop i).takeWhile (· = 0)).length
    match best with
    | some (_, len) => if run > len then some (i, run) else best
    | none => if run > 0 then some (i, run) else none) none

def text (pieces : List Nat) : String :=
  let compress := match longestZeros pieces with
    | some (start, len) => if len ≥ 2 then some (start, len) else none
    | none => none
  match compress with
  | some (start, len) =>
    ":".intercalate ((pieces.take start).map hexText) ++ "::" ++
      ":".intercalate ((pieces.drop (start + len)).map hexText)
  | none => ":".intercalate (pieces.map hexText)

end Ipv6

end ODataBuilder
