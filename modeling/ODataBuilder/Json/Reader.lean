import ODataBuilder.Json.Value
import ODataBuilder.Number.Exact
/-!
# Reading JSON text

A `Cursor` walks the text and knows the line and byte column reached, which every error
carries. An integer that fits in 64 bits is kept as one; any other number becomes binary64,
computed the way the reader computes it rather than rounded once.
-/
namespace ODataBuilder.Json

/-- A line (from 1) and a byte column (bytes since the line began). -/
structure Position where
  line : Nat
  column : Nat
  deriving Repr, DecidableEq, Inhabited

/-- Where a reader stands: the text still to read, and the position reached. -/
structure Cursor where
  rest : List Char
  line : Nat
  column : Nat
  deriving Repr, Inhabited

inductive SyntaxCode where
  | eofWhileParsingList
  | eofWhileParsingObject
  | eofWhileParsingString
  | eofWhileParsingValue
  | expectedColon
  | expectedListCommaOrEnd
  | expectedObjectCommaOrEnd
  | expectedSomeIdent
  | expectedSomeValue
  | invalidEscape
  | invalidNumber
  | numberOutOfRange
  | invalidUnicodeCodePoint
  | controlCharacterWhileParsingString
  | keyMustBeAString
  | loneLeadingSurrogateInHexEscape
  | trailingComma
  | trailingCharacters
  | unexpectedEndOfHexEscape
  | recursionLimitExceeded
  deriving Repr, DecidableEq

def SyntaxCode.message : SyntaxCode → String
  | .eofWhileParsingList => "EOF while parsing a list"
  | .eofWhileParsingObject => "EOF while parsing an object"
  | .eofWhileParsingString => "EOF while parsing a string"
  | .eofWhileParsingValue => "EOF while parsing a value"
  | .expectedColon => "expected `:`"
  | .expectedListCommaOrEnd => "expected `,` or `]`"
  | .expectedObjectCommaOrEnd => "expected `,` or `\x7d`"
  | .expectedSomeIdent => "expected ident"
  | .expectedSomeValue => "expected value"
  | .invalidEscape => "invalid escape"
  | .invalidNumber => "invalid number"
  | .numberOutOfRange => "number out of range"
  | .invalidUnicodeCodePoint => "invalid unicode code point"
  | .controlCharacterWhileParsingString =>
    "control character (\\u0000-\\u001F) found while parsing a string"
  | .keyMustBeAString => "key must be a string"
  | .loneLeadingSurrogateInHexEscape => "lone leading surrogate in hex escape"
  | .trailingComma => "trailing comma"
  | .trailingCharacters => "trailing characters"
  | .unexpectedEndOfHexEscape => "unexpected end of hex escape"
  | .recursionLimitExceeded => "recursion limit exceeded"

/-- A reading failure. A message raised by a consumer of the text may not know its position
yet; the reader fills it in where the failure surfaces (`ReadError.placeAt`). -/
structure ReadError where
  message : String
  position : Option Position
  deriving Repr, Inhabited

namespace ReadError

def ofCode (code : SyntaxCode) (position : Position) : ReadError :=
  ⟨code.message, some position⟩

def custom (message : String) : ReadError :=
  ⟨message, none⟩

def placeAt (e : ReadError) (position : Position) : ReadError :=
  match e.position with
  | some _ => e
  | none => { e with position := some position }

def text (e : ReadError) : String :=
  match e.position with
  | some p => e.message ++ " at line " ++ toString p.line ++ " column " ++ toString p.column
  | none => e.message

end ReadError

/-- What a reading step gives: a value and the cursor after it, or an error. -/
abbrev Step (α : Type) := Except ReadError (α × Cursor)

namespace Cursor

def start (text : String) : Cursor := ⟨text.toList, 1, 0⟩

def position (c : Cursor) : Position := ⟨c.line, c.column⟩

def peekPosition (c : Cursor) : Position :=
  match c.rest with
  | [] => c.position
  | '\n' :: _ => ⟨c.line + 1, 0⟩
  | _ :: _ => ⟨c.line, c.column + 1⟩

def peek (c : Cursor) : Option Char := c.rest.head?

def advance (c : Cursor) : Cursor :=
  match c.rest with
  | [] => c
  | ch :: rest =>
    if ch = '\n' then ⟨rest, c.line + 1, 0⟩ else ⟨rest, c.line, c.column + ch.utf8Size⟩

def fail {α : Type} (c : Cursor) (code : SyntaxCode) : Except ReadError α :=
  .error (ReadError.ofCode code c.position)

def failAhead {α : Type} (c : Cursor) (code : SyntaxCode) : Except ReadError α :=
  .error (ReadError.ofCode code c.peekPosition)

def toEnd (c : Cursor) : Cursor :=
  (List.range c.rest.length).foldl (fun c _ => c.advance) c

/-- A bound on the steps a reader can take from here: each consumes a character. -/
def fuel (c : Cursor) : Nat := c.rest.length + 1

def skipBlankFor : Nat → Cursor → Cursor
  | 0, c => c
  | fuel + 1, c =>
    match c.peek with
    | some ' ' | some '\n' | some '\t' | some '\r' => skipBlankFor fuel c.advance
    | _ => c

def skipBlank (c : Cursor) : Cursor := skipBlankFor c.fuel c

end Cursor

def hexValue? (c : Char) : Option Nat :=
  if '0' ≤ c ∧ c ≤ '9' then some (c.toNat - 48)
  else if 'a' ≤ c ∧ c ≤ 'f' then some (c.toNat - 87)
  else if 'A' ≤ c ∧ c ≤ 'F' then some (c.toNat - 55)
  else none

/-- The position `k` bytes past `p` in text `cs`, which may fall inside a character. -/
def bytePosition : Nat → List Char → Position → Position
  | 0, _, p => p
  | _, [], p => p
  | k + 1, ch :: rest, p =>
    if ch = '\n' then bytePosition k rest ⟨p.line + 1, 0⟩
    else if ch.utf8Size ≥ k + 1 then ⟨p.line, p.column + (k + 1)⟩
    else bytePosition (k + 1 - ch.utf8Size) rest ⟨p.line, p.column + ch.utf8Size⟩

/-- Reads the four hex digits of a `\u` escape. The escape is four bytes: with fewer left the
string ends too soon, and four that are not all hex digits are an invalid escape reported
just past them, even inside a character. -/
def readHex4 (c : Cursor) : Step Nat :=
  if ((c.rest.take 4).map Char.utf8Size).foldr (· + ·) 0 < 4 then c.toEnd.fail .eofWhileParsingString
  else
    match c.rest with
    | a :: b :: d :: e :: _ =>
      match hexValue? a, hexValue? b, hexValue? d, hexValue? e with
      | some a, some b, some d, some e =>
        .ok (((a * 16 + b) * 16 + d) * 16 + e, c.advance.advance.advance.advance)
      | _, _, _, _ => .error (ReadError.ofCode .invalidEscape (bytePosition 4 c.rest c.position))
    | _ => .error (ReadError.ofCode .invalidEscape (bytePosition 4 c.rest c.position))

/-- Reads what follows `\u` in a string: one code unit, or a surrogate pair. -/
def readUnicodeEscape (c : Cursor) : Except ReadError (Char × Cursor) := do
  let (n, c) ← readHex4 c
  if 0xDC00 ≤ n ∧ n ≤ 0xDFFF then c.fail .loneLeadingSurrogateInHexEscape
  else if n < 0xD800 ∨ 0xDBFF < n then .ok (Char.ofNat n, c)
  else
    match c.peek with
    | none => c.failAhead .eofWhileParsingString
    | some '\\' =>
      let c := c.advance
      match c.peek with
      | none => c.failAhead .eofWhileParsingString
      | some 'u' =>
        let (low, c) ← readHex4 c.advance
        if low < 0xDC00 ∨ 0xDFFF < low then c.fail .loneLeadingSurrogateInHexEscape
        else .ok (Char.ofNat (((n - 0xD800) * 0x400 + (low - 0xDC00)) + 0x10000), c)
      | some _ => c.advance.fail .unexpectedEndOfHexEscape
    | some _ => c.advance.fail .unexpectedEndOfHexEscape

/-- Reads the character an escape stands for; the cursor is past the backslash. -/
def readEscape (c : Cursor) : Step Char :=
  match c.peek with
  | none => c.fail .eofWhileParsingString
  | some ch =>
    let c := c.advance
    if ch = '"' then .ok ('"', c)
    else if ch = '\\' then .ok ('\\', c)
    else if ch = '/' then .ok ('/', c)
    else if ch = 'b' then .ok (Char.ofNat 8, c)
    else if ch = 'f' then .ok (Char.ofNat 12, c)
    else if ch = 'n' then .ok ('\n', c)
    else if ch = 'r' then .ok ('\r', c)
    else if ch = 't' then .ok ('\t', c)
    else if ch = 'u' then readUnicodeEscape c
    else c.fail .invalidEscape

/-- Reads the rest of a string after its opening quote, up to and past the closing one. -/
def readStringFor : Nat → Cursor → List Char → Step String
  | 0, c, _ => c.fail .eofWhileParsingString
  | fuel + 1, c, acc =>
    match c.peek with
    | none => c.fail .eofWhileParsingString
    | some '"' => .ok (String.ofList acc.reverse, c.advance)
    | some '\\' =>
      match readEscape c.advance with
      | .ok (ch, c') => readStringFor fuel c' (ch :: acc)
      | .error e => .error e
    | some ch =>
      if ch.toNat < 0x20 then c.advance.fail .controlCharacterWhileParsingString
      else readStringFor fuel c.advance (ch :: acc)

def readString (c : Cursor) : Step String := readStringFor c.fuel c []

def readWordTail : List Char → Cursor → Except ReadError Cursor
  | [], c => .ok c
  | expected :: more, c =>
    match c.peek with
    | none => c.fail .eofWhileParsingValue
    | some ch => if ch = expected then readWordTail more c.advance else c.advance.fail .expectedSomeIdent

/-- A number as read: an unsigned integer within 64 bits, a negative integer within 64
bits, or any other number as a binary64 value. -/
inductive NumberValue where
  | unsigned (value : Nat)
  | signed (value : Int)
  | float (value : BinaryFloat)
  deriving Repr, DecidableEq

structure NumberToken where
  text : String
  value : NumberValue
  deriving Repr

def significandLimit : Nat := Nat.pow 2 64 - 1

def exponentLimit : Nat := Nat.pow 2 31 - 1

def clampExponent (e : Int) : Int :=
  max (-Int.pow 2 31) (min e (Int.pow 2 31 - 1))

/-- The binary64 value nearest to `10^k`, as a table of powers holds it. -/
def powerOfTen (k : Nat) : BinaryFloat := BinaryFormat.double.round false 1 k

/-- Scales `f` by `10^e` the way the reader does: one rounded multiplication or division by
the power of ten when `|e| ≤ 308`, and below that, divisions by `10^308` until the exponent
is in reach or the value is zero. `none` when the value overflows. -/
def scaleByTen : Nat → BinaryFloat → Int → Option BinaryFloat
  | 0, f, _ => some f
  | fuel + 1, f, e =>
    if e.natAbs ≤ 308 then
      if 0 ≤ e then
        match BinaryFloat.mul .double f (powerOfTen e.natAbs) with
        | .infinite _ => none
        | g => some g
      else some (BinaryFloat.div .double f (powerOfTen e.natAbs))
    else if f.isZero then some f
    else if 0 ≤ e then none
    else scaleByTen fuel (BinaryFloat.div .double f (powerOfTen 308)) (e + 308)

/-- The value of `significand · 10^exponent` as the reader computes it: the significand
rounded to binary64, then scaled by `scaleByTen`. -/
def decimalValue? (negative : Bool) (significand : Nat) (exponent : Int) : Option BinaryFloat :=
  (scaleByTen 8 (BinaryFloat.ofNat .double significand) exponent).map fun f =>
    if negative then f.negate else f

namespace Cursor

def skipDigits : Nat → Cursor → Cursor
  | 0, c => c
  | fuel + 1, c =>
    match c.peek with
    | some ch => if ch.isDigit then skipDigits fuel c.advance else c
    | none => c

def decimalAt (c : Cursor) (negative : Bool) (significand : Nat) (exponent : Int) :
    Except ReadError (NumberValue × Cursor) :=
  match decimalValue? negative significand exponent with
  | some f => .ok (.float f, c)
  | none => c.fail .numberOutOfRange

/-- After an exponent too large to keep: a zero significand or a negative exponent gives
zero, the rest of the digits skipped; otherwise the number is out of range. -/
def exponentOverflow (c : Cursor) (negative zeroSignificand positiveExponent : Bool) :
    Except ReadError (NumberValue × Cursor) :=
  if !zeroSignificand && positiveExponent then c.fail .numberOutOfRange
  else
    let zero := BinaryFloat.finite false 0 BinaryFormat.double.minExponent
    .ok (.float (if negative then zero.negate else zero), skipDigits c.fuel c)

/-- Reads the rest of the exponent's digits onto `value`: the value and the cursor, or the
cursor just past a digit that made it too large. -/
def readExponentDigits : Nat → Cursor → Nat → Sum Cursor (Nat × Cursor)
  | 0, c, value => .inr (value, c)
  | fuel + 1, c, value =>
    match c.peek with
    | some ch =>
      if ch.isDigit then
        let value' := value * 10 + (ch.toNat - 48)
        if value' > exponentLimit then .inl c.advance
        else readExponentDigits fuel c.advance value'
      else .inr (value, c)
    | none => .inr (value, c)

def readExponent (c : Cursor) (negative : Bool) (significand : Nat) (scale : Int) :
    Except ReadError (NumberValue × Cursor) :=
  let c := c.advance
  let (positiveExponent, c) :=
    match c.peek with
    | some '+' => (true, c.advance)
    | some '-' => (false, c.advance)
    | _ => (true, c)
  match c.peek with
  | none => c.fail .eofWhileParsingValue
  | some ch =>
    if !ch.isDigit then c.advance.fail .invalidNumber
    else
      match readExponentDigits c.fuel c.advance (ch.toNat - 48) with
      | .inl c => exponentOverflow c negative (significand == 0) positiveExponent
      | .inr (value, c) =>
        let total := clampExponent (if positiveExponent then scale + value else scale - value)
        decimalAt c negative significand total

/-- What follows the digits that fit, once a digit did not: an exponent, or the value. -/
def afterOverflow (c : Cursor) (negative : Bool) (significand : Nat) (exponent : Int) :
    Except ReadError (NumberValue × Cursor) :=
  match c.peek with
  | some 'e' | some 'E' => readExponent c negative significand exponent
  | _ => decimalAt c negative significand exponent

/-- Reads fraction digits onto `significand` while they fit: the significand, the digits
added, the cursor, and whether a digit did not fit. -/
def readFractionDigits : Nat → Cursor → Nat → Nat → Nat × Nat × Cursor × Bool
  | 0, c, significand, count => (significand, count, c, false)
  | fuel + 1, c, significand, count =>
    match c.peek with
    | some ch =>
      if ch.isDigit then
        let next := significand * 10 + (ch.toNat - 48)
        if next > significandLimit then (significand, count, c, true)
        else readFractionDigits fuel c.advance next (count + 1)
      else (significand, count, c, false)
    | none => (significand, count, c, false)

def readFraction (c : Cursor) (negative : Bool) (significand : Nat) (before : Int) :
    Except ReadError (NumberValue × Cursor) :=
  let (significand, count, c, overflowed) := readFractionDigits c.fuel c.advance significand 0
  let exponent := before - count
  if overflowed then afterOverflow (skipDigits c.fuel c) negative significand exponent
  else if count = 0 then
    match c.peek with
    | some _ => c.failAhead .invalidNumber
    | none => c.failAhead .eofWhileParsingValue
  else
    match c.peek with
    | some 'e' | some 'E' => readExponent c negative significand exponent
    | _ => decimalAt c negative significand exponent

/-- Reads the integer digits that no longer fit, each raising the exponent, then what follows. -/
def readLongInteger : Nat → Cursor → Bool → Nat → Int → Except ReadError (NumberValue × Cursor)
  | 0, c, negative, significand, exponent => decimalAt c negative significand exponent
  | fuel + 1, c, negative, significand, exponent =>
    match c.peek with
    | some '.' => readFraction c negative significand exponent
    | some 'e' | some 'E' => readExponent c negative significand exponent
    | some ch =>
      if ch.isDigit then readLongInteger fuel c.advance negative significand (exponent + 1)
      else decimalAt c negative significand exponent
    | none => decimalAt c negative significand exponent

/-- What follows integer digits that all fit: a fraction, an exponent, or nothing. -/
def readNumberTail (c : Cursor) (negative : Bool) (significand : Nat) :
    Except ReadError (NumberValue × Cursor) :=
  match c.peek with
  | some '.' => readFraction c negative significand 0
  | some 'e' | some 'E' => readExponent c negative significand 0
  | _ =>
    if !negative then .ok (.unsigned significand, c)
    else if significand ≠ 0 ∧ significand ≤ Nat.pow 2 63 then .ok (.signed (-(significand : Int)), c)
    else .ok (.float (BinaryFloat.ofNat .double significand).negate, c)

def readIntegerDigits : Nat → Cursor → Bool → Nat → Except ReadError (NumberValue × Cursor)
  | 0, c, negative, significand => readNumberTail c negative significand
  | fuel + 1, c, negative, significand =>
    match c.peek with
    | some ch =>
      if ch.isDigit then
        let next := significand * 10 + (ch.toNat - 48)
        if next > significandLimit then readLongInteger c.fuel c negative significand 0
        else readIntegerDigits fuel c.advance negative next
      else readNumberTail c negative significand
    | none => readNumberTail c negative significand

def readUnsignedNumber (c : Cursor) (negative : Bool) : Except ReadError (NumberValue × Cursor) :=
  match c.peek with
  | none => c.fail .eofWhileParsingValue
  | some '0' =>
    let c := c.advance
    match c.peek with
    | some ch => if ch.isDigit then c.failAhead .invalidNumber else readNumberTail c negative 0
    | none => readNumberTail c negative 0
  | some ch =>
    if ch.isDigit then readIntegerDigits c.fuel c.advance negative (ch.toNat - 48)
    else c.advance.fail .invalidNumber

end Cursor

/-- Reads a number; the cursor is at its first character (a digit), or just past a minus
sign when `negative`. -/
def readNumber (c : Cursor) (negative : Bool) : Except ReadError (NumberToken × Cursor) := do
  let (value, c') ← c.readUnsignedNumber negative
  let consumed := c.rest.take (c.rest.length - c'.rest.length)
  let text := (if negative then "-" else "") ++ String.ofList consumed
  .ok (⟨text, value⟩, c')

/-- The value of a number written as `text`, if the whole text is one number. -/
def numberValue? (text : String) : Option NumberValue :=
  let c := Cursor.start text
  let read := match c.peek with
    | some '-' => readNumber c.advance true
    | _ => readNumber c false
  match read with
  | .ok (token, rest) => if rest.rest.isEmpty then some token.value else none
  | .error _ => none

def nestingLimit : Nat := 128

mutual
def readValueFor : Nat → Nat → Cursor → Step Json
  | 0, _, c => c.fail .eofWhileParsingValue
  | fuel + 1, depth, c =>
    let c := c.skipBlank
    match c.peek with
    | none => c.failAhead .eofWhileParsingValue
    | some 'n' => (readWordTail ['u', 'l', 'l'] c.advance).map fun c => (.null, c)
    | some 't' => (readWordTail ['r', 'u', 'e'] c.advance).map fun c => (.bool true, c)
    | some 'f' => (readWordTail ['a', 'l', 's', 'e'] c.advance).map fun c => (.bool false, c)
    | some '-' => (readNumber c.advance true).map fun (n, c) => (.number n.text, c)
    | some '"' => (readString c.advance).map fun (s, c) => (.string s, c)
    | some '[' =>
      if depth ≤ 1 then c.failAhead .recursionLimitExceeded
      else
        match readItemsFor fuel (depth - 1) c.advance true [] with
        | .error e => .error e
        | .ok (items, c) => .ok (.array items, c)
    | some '\x7b' =>
      if depth ≤ 1 then c.failAhead .recursionLimitExceeded
      else
        match readMembersFor fuel (depth - 1) c.advance true [] with
        | .error e => .error e
        | .ok (members, c) => .ok (.object members, c)
    | some ch =>
      if ch.isDigit then (readNumber c false).map fun (n, c) => (.number n.text, c)
      else c.failAhead .expectedSomeValue

/-- Reads array items after `[` or after an item, through the closing `]`. -/
def readItemsFor : Nat → Nat → Cursor → Bool → List Json → Step (List Json)
  | 0, _, c, _, _ => c.fail .eofWhileParsingList
  | fuel + 1, depth, c, first, acc =>
    let c := c.skipBlank
    match c.peek with
    | none => c.failAhead .eofWhileParsingList
    | some ']' => .ok (acc.reverse, c.advance)
    | some ',' =>
      if first then c.failAhead .expectedSomeValue
      else
        let c := c.advance.skipBlank
        match c.peek with
        | some ']' => c.failAhead .trailingComma
        | _ =>
          match readValueFor fuel depth c with
          | .error e => .error e
          | .ok (item, c) => readItemsFor fuel depth c false (item :: acc)
    | some _ =>
      if first then
        match readValueFor fuel depth c with
        | .error e => .error e
        | .ok (item, c) => readItemsFor fuel depth c false (item :: acc)
      else c.failAhead .expectedListCommaOrEnd

/-- Reads object members after `{` or after a member, through the closing brace. -/
def readMembersFor : Nat → Nat → Cursor → Bool → List (String × Json) → Step (List (String × Json))
  | 0, _, c, _, _ => c.fail .eofWhileParsingObject
  | fuel + 1, depth, c, first, acc =>
    let c := c.skipBlank
    match c.peek with
    | none => c.failAhead .eofWhileParsingObject
    | some '\x7d' => .ok (acc.reverse, c.advance)
    | some ',' =>
      if first then c.failAhead .keyMustBeAString
      else readMemberFor fuel depth c.advance.skipBlank acc
    | some _ =>
      if first then readMemberFor fuel depth c acc
      else c.failAhead .expectedObjectCommaOrEnd

def readMemberFor : Nat → Nat → Cursor → List (String × Json) → Step (List (String × Json))
  | 0, _, c, _ => c.fail .eofWhileParsingObject
  | fuel + 1, depth, c, acc =>
    match c.peek with
    | some '"' =>
      match readString c.advance with
      | .error e => .error e
      | .ok (key, c) =>
        let c := c.skipBlank
        match c.peek with
        | some ':' =>
          match readValueFor fuel depth c.advance with
          | .error e => .error e
          | .ok (value, c) => readMembersFor fuel depth c false ((key, value) :: acc)
        | some _ => c.failAhead .expectedColon
        | none => c.failAhead .eofWhileParsingObject
    | some '\x7d' => c.failAhead .trailingComma
    | some _ => c.failAhead .keyMustBeAString
    | none => c.failAhead .eofWhileParsingValue
end

/-- Reads a whole document, nested at most `limit` levels deep: one value, then nothing but
blanks. -/
def parseWithin (limit : Nat) (text : String) : Except ReadError Json := do
  let c := Cursor.start text
  let (value, c) ← readValueFor c.fuel limit c
  let c := c.skipBlank
  match c.peek with
  | none => .ok value
  | some _ => c.failAhead .trailingCharacters

def parse (text : String) : Except ReadError Json := parseWithin nestingLimit text

end ODataBuilder.Json
