import ODataBuilder.Decl.Token
import ODataBuilder.Text.IdentChar
import ODataBuilder.Text.Blank
/-!
# Reading text into token trees

`Scan.trees` reads declaration text into token trees: blanks and comments separate tokens, doc
comments become `#[doc = "…"]`, literals are read before punctuation and identifiers, and
brackets must pair up.
-/
namespace ODataBuilder

namespace Scan

def isIdentStart (c : Char) : Bool := c == '_' || Unicode.isIdentStart c

def isIdentContinue (c : Char) : Bool := Unicode.isIdentContinue c

def isSpace (c : Char) : Bool := Blank.isBlank c || c.toNat == 0x200E || c.toNat == 0x200F

def isHex (c : Char) : Bool := c.isDigit || ('a' ≤ c && c ≤ 'f') || ('A' ≤ c && c ≤ 'F')

def opens (p : String) (cs : List Char) : Bool := p.toList.isPrefixOf cs

/-- The line up to its break, and the rest from the line feed on; the carriage return of a
`\r\n` stays out of both. -/
def lineRest : List Char → List Char × List Char
  | [] => ([], [])
  | '\n' :: rest => ([], '\n' :: rest)
  | '\r' :: '\n' :: rest => ([], '\n' :: rest)
  | c :: rest => let (line, after) := lineRest rest; (c :: line, after)

/-- The body of a block comment at nesting `depth`: the text up to and with the `*/` that
closes it, and the rest. -/
def blockBody : Nat → List Char → Option (List Char × List Char)
  | depth, '/' :: '*' :: rest =>
    (blockBody (depth + 1) rest).map fun (t, r) => ('/' :: '*' :: t, r)
  | depth, '*' :: '/' :: rest =>
    if depth ≤ 1 then some (['*', '/'], rest)
    else (blockBody (depth - 1) rest).map fun (t, r) => ('*' :: '/' :: t, r)
  | depth, c :: rest => (blockBody depth rest).map fun (t, r) => (c :: t, r)
  | _, [] => none

def blockComment : List Char → Option (List Char × List Char)
  | '/' :: '*' :: rest => (blockBody 1 rest).map fun (t, r) => ('/' :: '*' :: t, r)
  | _ => none

def lineCommentStarts (cs : List Char) : Bool :=
  opens "//" cs && (!opens "///" cs || opens "////" cs) && !opens "//!" cs

def blockCommentStarts (cs : List Char) : Bool :=
  opens "/*" cs && (!opens "/**" cs || opens "/***" cs) && !opens "/*!" cs

/-- Drops blanks and plain comments from the front; an unclosed block comment stays. -/
def skipSpace : Nat → List Char → List Char
  | 0, cs => cs
  | fuel + 1, cs =>
    if lineCommentStarts cs then skipSpace fuel (lineRest cs).2
    else if opens "/**/" cs then skipSpace fuel (cs.drop 4)
    else if blockCommentStarts cs then
      match blockComment cs with
      | some (_, rest) => skipSpace fuel rest
      | none => cs
    else
      match cs with
      | c :: rest => if isSpace c then skipSpace fuel rest else cs
      | [] => []

/-- A doc comment at the front: its text, whether it is an inner one, and the rest. -/
def docComment (cs : List Char) : Option (List Char × Bool × List Char) :=
  let inside (t : List Char) := (t.drop 3).take (t.length - 5)
  if opens "//!" cs then
    let (line, rest) := lineRest (cs.drop 3)
    some (line, true, rest)
  else if opens "/*!" cs then
    (blockComment cs).map fun (t, rest) => (inside t, true, rest)
  else if opens "///" cs then
    if opens "////" cs then none
    else
      let (line, rest) := lineRest (cs.drop 3)
      some (line, false, rest)
  else if opens "/**" cs && !opens "/***" cs then
    (blockComment cs).map fun (t, rest) => (inside t, false, rest)
  else none

def hasBareReturn : List Char → Bool
  | '\r' :: '\n' :: rest => hasBareReturn rest
  | '\r' :: _ => true
  | _ :: rest => hasBareReturn rest
  | [] => false

/-- The trees of a doc comment: `#`, a `!` for an inner one, and `[doc = "text"]`. -/
def docTrees (text : List Char) (inner : Bool) : List TokenTree :=
  let body := [TokenTree.ident "doc", .punct '=' .alone,
    .literal ("\"" ++ String.ofList text ++ "\"")]
  let pound := TokenTree.punct '#' .alone
  if inner then [pound, .punct '!' .alone, .group .bracket body]
  else [pound, .group .bracket body]

def plainIdent : List Char → Option (String × List Char)
  | c :: rest =>
    if isIdentStart c then
      some (String.ofList (c :: rest.takeWhile isIdentContinue), rest.dropWhile isIdentContinue)
    else none
  | [] => none

/-- An identifier, raw or not, at the front: its name (with `r#` for a raw one) and the rest. -/
def anyIdent (cs : List Char) : Option (String × List Char) :=
  if opens "r#" cs then
    match plainIdent (cs.drop 2) with
    | some (name, rest) =>
      if ["_", "super", "self", "Self", "crate"].contains name then none
      else some ("r#" ++ name, rest)
    | none => none
  else plainIdent cs

def afterSuffix (cs : List Char) : List Char :=
  match plainIdent cs with
  | some (_, rest) => rest
  | none => cs

/-- What follows `\u`: `{`, one to six hex digits with `_` allowed after the first, and `}`;
the value read so far and the count of digits. The value must be a character. -/
def unicodeDigits : Nat → Nat → List Char → Option (Nat × List Char)
  | value, count, c :: rest =>
    match RangeTable.hexDigitValue? c with
    | some d => if count == 6 then none else unicodeDigits (value * 16 + d) (count + 1) rest
    | none =>
      if c == '_' && count > 0 then unicodeDigits value count rest
      else if c == '}' && count > 0 then
        if value < 0xD800 || (0xE000 ≤ value && value ≤ 0x10FFFF) then some (value, rest)
        else none
      else none
  | _, _, [] => none

def unicodeEscape : List Char → Option (Nat × List Char)
  | '{' :: rest => unicodeDigits 0 0 rest
  | _ => none

inductive QuoteKind where
  | text
  | bytes
  | cText
  deriving DecidableEq

def hexEscape (kind : QuoteKind) : List Char → Option (List Char)
  | a :: b :: rest =>
    match kind with
    | .text => if '0' ≤ a && a ≤ '7' && isHex b then some rest else none
    | .bytes => if isHex a && isHex b then some rest else none
    | .cText => if isHex a && isHex b && !(a == '0' && b == '0') then some rest else none
  | _ => none

/-- Skips the blanks after a backslash and a line break; `pendingReturn` says that a carriage
return was just read, which must be followed by a line feed. Gives the text from the first
character that is not blank. -/
def continuation : Bool → List Char → Option (List Char)
  | true, '\n' :: rest => continuation false rest
  | true, _ => none
  | false, c :: rest =>
    if c == '\r' then continuation true rest
    else if c == ' ' || c == '\t' || c == '\n' then continuation false rest
    else some (c :: rest)
  | false, [] => none

def simpleEscape (kind : QuoteKind) (c : Char) : Bool :=
  ['n', 'r', 't', '\\', '\'', '"'].contains c || (c == '0' && kind != .cText)

/-- An escape after its backslash: the rest, or `none` when it is not allowed. -/
def escape (kind : QuoteKind) : List Char → Option (List Char)
  | 'x' :: rest => hexEscape kind rest
  | 'u' :: rest =>
    if kind == .bytes then none
    else
      match unicodeEscape rest with
      | some (value, after) => if kind == .cText && value == 0 then none else some after
      | none => none
  | '\n' :: rest => continuation false rest
  | '\r' :: rest => continuation true rest
  | c :: rest => if simpleEscape kind c then some rest else none
  | [] => none

def plainAllowed (kind : QuoteKind) (c : Char) : Bool :=
  match kind with
  | .text => true
  | .bytes => c.toNat < 128
  | .cText => c.toNat != 0

/-- The body of cooked quoted text up to its closing quote: the rest after the quote. -/
def cookedBody (kind : QuoteKind) : Nat → List Char → Option (List Char)
  | 0, _ => none
  | fuel + 1, cs =>
    match cs with
    | '"' :: rest => some rest
    | '\r' :: '\n' :: rest => cookedBody kind fuel rest
    | '\r' :: _ => none
    | '\\' :: rest =>
      match escape kind rest with
      | some after => cookedBody kind fuel after
      | none => none
    | c :: rest => if plainAllowed kind c then cookedBody kind fuel rest else none
    | [] => none

/-- The body of raw quoted text closed by `"` and `hashes` hashes: the rest after it. -/
def rawBody (kind : QuoteKind) (hashes : Nat) : List Char → Option (List Char)
  | '"' :: rest =>
    if (List.replicate hashes '#').isPrefixOf rest then some (rest.drop hashes)
    else rawBody kind hashes rest
  | '\r' :: '\n' :: rest => rawBody kind hashes rest
  | '\r' :: _ => none
  | c :: rest =>
    let ok := match kind with
      | .text => true
      | .bytes => c.toNat < 128
      | .cText => c.toNat != 0
    if ok then rawBody kind hashes rest else none
  | [] => none

/-- Raw quoted text after its `r`: hashes, a quote, the body. Gives the rest. -/
def rawQuoted (kind : QuoteKind) (cs : List Char) : Option (List Char) :=
  let hashes := (cs.takeWhile (· == '#')).length
  match cs.drop hashes with
  | '"' :: rest => if hashes > 255 then none else rawBody kind hashes rest
  | _ => none

/-- A quoted literal of the kind after its prefix letters: cooked after `"`, raw after `r`.
Gives the rest after the suffix. -/
def quoted (kind : QuoteKind) : List Char → Option (List Char)
  | '"' :: rest => (cookedBody kind (rest.length + 1) rest).map afterSuffix
  | 'r' :: rest => (rawQuoted kind rest).map afterSuffix
  | _ => none

/-- A character or byte literal after its opening quote: one character or escape, then the
closing quote. -/
def quotedChar (kind : QuoteKind) : List Char → Option (List Char)
  | '\\' :: rest =>
    let after := match rest with
      | 'x' :: more => hexEscape kind more
      | 'u' :: more => if kind == .bytes then none else (unicodeEscape more).map (·.2)
      | c :: more => if simpleEscape .text c then some more else none
      | [] => none
    match after with
    | some ('\'' :: more) => some (afterSuffix more)
    | _ => none
  | c :: '\'' :: more => if kind == .bytes && c.toNat ≥ 128 then none else some (afterSuffix more)
  | _ => none

/-- Reads the digits, point and exponent marker of a number after its first digit: the count
of characters read so far, and whether a point and an exponent marker were read. A point
right before a second point or an identifier does not read. -/
def floatHead : List Char → Bool → Nat → Option (Nat × Bool × Bool)
  | c :: rest, hasDot, count =>
    if c.isDigit || c == '_' then floatHead rest hasDot (count + 1)
    else if c == '.' then
      if hasDot then some (count, hasDot, false)
      else
        match rest with
        | d :: _ => if d == '.' || isIdentStart d then none else floatHead rest true (count + 1)
        | [] => floatHead rest true (count + 1)
    else if c == 'e' || c == 'E' then some (count + 1, hasDot, true)
    else some (count, hasDot, false)
  | [], hasDot, count => some (count, hasDot, false)

/-- Reads an exponent after its marker: the count of characters read, or `none` when no digit
came or a second sign came before any digit. -/
def exponentLength : List Char → Bool → Bool → Nat → Option Nat
  | c :: rest, sawSign, sawDigit, count =>
    if c == '+' || c == '-' then
      if sawDigit then some count
      else if sawSign then none
      else exponentLength rest true sawDigit (count + 1)
    else if c.isDigit then exponentLength rest sawSign true (count + 1)
    else if c == '_' then exponentLength rest sawSign sawDigit (count + 1)
    else if sawDigit then some count else none
  | [], _, sawDigit, count => if sawDigit then some count else none

/-- The length of a float numeral at the front: digits with a point or an exponent. When the
exponent has no digits, the numeral ends before its marker if it has a point. -/
def floatLength (cs : List Char) : Option Nat :=
  match cs with
  | c :: rest =>
    if !c.isDigit then none
    else
      match floatHead rest false 1 with
      | none => none
      | some (count, hasDot, hasExp) =>
        if !(hasDot || hasExp) then none
        else if hasExp then
          match exponentLength (cs.drop count) false false 0 with
          | some e => some (count + e)
          | none => if hasDot then some (count - 1) else none
        else some count
  | [] => none

/-- The digits of an integer in `base`, after its base prefix: the count read and whether a
digit came. A digit too large for the base, or `_` first in a decimal, does not read. -/
def intDigits (base : Nat) : List Char → Nat → Bool → Option (Nat × Bool)
  | c :: rest, count, empty =>
    if c.isDigit then
      if c.toNat - 48 ≥ base then none else intDigits base rest (count + 1) false
    else if ('a' ≤ c && c ≤ 'f') || ('A' ≤ c && c ≤ 'F') then
      if base ≤ 10 then some (count, empty) else intDigits base rest (count + 1) false
    else if c == '_' then
      if empty && base == 10 then none else intDigits base rest (count + 1) empty
    else some (count, empty)
  | [], count, empty => some (count, empty)

/-- The length of an integer numeral at the front, with its base prefix. -/
def intLength (cs : List Char) : Option Nat :=
  let (base, skip) :=
    if opens "0x" cs then (16, 2) else if opens "0o" cs then (8, 2)
    else if opens "0b" cs then (2, 2) else (10, 0)
  match intDigits base (cs.drop skip) 0 true with
  | some (count, false) => some (skip + count)
  | _ => none

/-- A number of `length` characters at the front, its suffix, and no identifier character
right after. -/
def numberRest (cs : List Char) (length : Nat) : Option (List Char) :=
  let rest := afterSuffix (cs.drop length)
  match rest with
  | c :: _ => if isIdentContinue c then none else some rest
  | [] => some rest

def literalRest (cs : List Char) : Option (List Char) :=
  let firstOf : List (Unit → Option (List Char)) := [
    fun _ => quoted .text cs,
    fun _ => if opens "b\"" cs || opens "br" cs then quoted .bytes (cs.drop 1) else none,
    fun _ => if opens "c\"" cs || opens "cr" cs then quoted .cText (cs.drop 1) else none,
    fun _ => if opens "b'" cs then quotedChar .bytes (cs.drop 2) else none,
    fun _ => if opens "'" cs then quotedChar .text (cs.drop 1) else none,
    fun _ => (floatLength cs).bind (numberRest cs),
    fun _ => (intLength cs).bind (numberRest cs)]
  firstOf.findSome? (· ())

def punctChars : List Char := "~!@#$%^&*-=+|;:,<.>/?'".toList

/-- A punctuation character at the front (not the `/` of a comment) and the rest. -/
def punctChar (cs : List Char) : Option (Char × List Char) :=
  if opens "//" cs || opens "/*" cs then none
  else
    match cs with
    | c :: rest => if punctChars.contains c then some (c, rest) else none
    | [] => none

/-- A punctuation token at the front and the rest. A `'` must start a lifetime: an
identifier follows, and after it neither a `'` nor a `#`. -/
def punct (cs : List Char) : Option (TokenTree × List Char) :=
  match punctChar cs with
  | some ('\'', rest) =>
    match anyIdent rest with
    | some (_, after) =>
      if opens "'" after || (opens "#" after && !opens "r#" rest) then none
      else some (.punct '\'' .joint, rest)
    | none => none
  | some (c, rest) =>
    some (.punct c (if (punctChar rest).isSome then .joint else .alone), rest)
  | none => none

/-- An identifier token at the front and the rest; text that opens like a literal is none. -/
def identifier (cs : List Char) : Option (TokenTree × List Char) :=
  let literalOpeners := ["r\"", "r#\"", "r##", "b\"", "b'", "br\"", "br#", "c\"", "cr\"", "cr#"]
  if literalOpeners.any (opens · cs) then none
  else (anyIdent cs).map fun (name, rest) => (.ident name, rest)

/-- A token that is not a bracket: a literal, a punctuation character or an identifier. -/
def leaf (cs : List Char) : Option (TokenTree × List Char) :=
  match literalRest cs with
  | some rest => some (.literal (String.ofList (cs.take (cs.length - rest.length))), rest)
  | none =>
    match punct cs with
    | some r => some r
    | none => identifier cs

def opening? : Char → Option Delimiter
  | '(' => some .paren
  | '[' => some .bracket
  | '{' => some .brace
  | _ => none

def closing? : Char → Option Delimiter
  | ')' => some .paren
  | ']' => some .bracket
  | '}' => some .brace
  | _ => none

/-- Reads trees into `trees` (latest first) under the open groups of `stack` (innermost
first, each with the trees before it). -/
def treesFrom : Nat → List Char → List TokenTree → List (Delimiter × List TokenTree) →
    Option (List TokenTree)
  | 0, _, _, _ => none
  | fuel + 1, cs, trees, stack =>
    let cs := skipSpace (cs.length + 1) cs
    match docComment cs with
    | some (text, inner, rest) =>
      if hasBareReturn text then none
      else treesFrom fuel rest ((docTrees text inner).reverse ++ trees) stack
    | none =>
      match cs with
      | [] => if stack.isEmpty then some trees.reverse else none
      | c :: rest =>
        match opening? c, closing? c with
        | some d, _ => treesFrom fuel rest [] ((d, trees) :: stack)
        | none, some d =>
          match stack with
          | (d', outer) :: more =>
            if d == d' then treesFrom fuel rest (.group d trees.reverse :: outer) more else none
          | [] => none
        | none, none =>
          match leaf cs with
          | some (t, after) => treesFrom fuel after (t :: trees) stack
          | none => none

/-- The token trees of a text, or `none` when it does not read. -/
def trees (text : String) : Option (List TokenTree) :=
  treesFrom (text.length + 1) text.toList [] []

end Scan

end ODataBuilder
