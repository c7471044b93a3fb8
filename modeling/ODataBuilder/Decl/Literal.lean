import ODataBuilder.Decl.Scan
/-!
# Literals

A literal token is kept as written and its kind read off its first characters;
`Literal.stringValue` gives the text a string literal stands for, its escapes replaced.
-/
namespace ODataBuilder

inductive LitKind where
  | str
  | byteStr
  | cStr
  | byte
  | char
  | int
  | float
  | bool
  | verbatim
  deriving Repr, DecidableEq

namespace LitKind

/-- Whether a number token reads whole as a float numeral with its suffix. -/
def isFloatText (cs : List Char) : Bool :=
  (Scan.floatLength cs).bind (Scan.numberRest cs) == some []

def ofText (text : String) : LitKind :=
  match text.toList with
  | '"' :: _ => .str
  | 'r' :: _ => .str
  | 'b' :: '"' :: _ => .byteStr
  | 'b' :: 'r' :: _ => .byteStr
  | 'b' :: '\'' :: _ => .byte
  | 'c' :: _ => .cStr
  | '\'' :: _ => .char
  | cs@(c :: _) => if c.isDigit then (if isFloatText cs then .float else .int) else .verbatim
  | [] => .verbatim

def isNumber : LitKind → Bool
  | .int | .float => true
  | _ => false

end LitKind

namespace Literal

def charOf (n : Nat) : Char := Char.ofNat n

/-- Reads the hex digits and `_` of a `\u{…}` escape up to its `}`: the value and the rest. -/
def unicodeValue : Nat → List Char → Nat × List Char
  | value, c :: rest =>
    match RangeTable.hexDigitValue? c with
    | some d => unicodeValue (value * 16 + d) rest
    | none => if c == '_' then unicodeValue value rest else (value, rest)
  | value, [] => (value, [])

def dropBreakBlanks : List Char → List Char
  | c :: rest => if c == ' ' || c == '\t' || c == '\n' || c == '\r' then dropBreakBlanks rest
    else c :: rest
  | [] => []

def cookedChars : Nat → List Char → List Char
  | 0, _ => []
  | fuel + 1, cs =>
    match cs with
    | '"' :: _ => []
    | '\\' :: 'x' :: a :: b :: rest =>
      let v := (RangeTable.hexDigitValue? a).getD 0 * 16 + (RangeTable.hexDigitValue? b).getD 0
      charOf v :: cookedChars fuel rest
    | '\\' :: 'u' :: '{' :: rest =>
      let (v, after) := unicodeValue 0 rest
      charOf v :: cookedChars fuel after
    | '\\' :: 'n' :: rest => '\n' :: cookedChars fuel rest
    | '\\' :: 'r' :: rest => '\r' :: cookedChars fuel rest
    | '\\' :: 't' :: rest => '\t' :: cookedChars fuel rest
    | '\\' :: '0' :: rest => charOf 0 :: cookedChars fuel rest
    | '\\' :: '\n' :: rest => cookedChars fuel (dropBreakBlanks rest)
    | '\\' :: '\r' :: rest => cookedChars fuel (dropBreakBlanks rest)
    | '\\' :: c :: rest => c :: cookedChars fuel rest
    | '\r' :: '\n' :: rest => '\n' :: cookedChars fuel rest
    | c :: rest => c :: cookedChars fuel rest
    | [] => []

/-- The body of a raw string after its `r`: between the quote after the hashes and the last
quote. -/
def rawChars (cs : List Char) : List Char :=
  let body := (cs.dropWhile (· == '#')).drop 1
  let lastQuote := body.length - 1 - ((body.reverse.takeWhile (· != '"')).length)
  body.take lastQuote

def stringValue (text : String) : String :=
  match text.toList with
  | '"' :: rest => String.ofList (cookedChars (rest.length + 1) rest)
  | 'r' :: rest => String.ofList (rawChars rest)
  | _ => ""

end Literal

end ODataBuilder
