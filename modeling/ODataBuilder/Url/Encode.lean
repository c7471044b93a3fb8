import ODataBuilder.Text.Percent
import ODataBuilder.Text.RangeTable
/-!
# Percent-encoding in URLs

Each part of a URL has its own set of ASCII characters written as `%XX`, and every character
outside ASCII is written as the `%XX` of its UTF-8 bytes.
-/
namespace ODataBuilder

inductive EncodeSet where
  | controls | fragment | path | userinfo | query | specialQuery
  deriving Repr, DecidableEq

namespace EncodeSet

def isControl (c : Char) : Bool := c.toNat < 0x20 || c.toNat == 0x7F

def inFragment (c : Char) : Bool :=
  isControl c || c == ' ' || c == '"' || c == '<' || c == '>' || c == '`'

def inPath (c : Char) : Bool :=
  inFragment c || c == '#' || c == '?' || c == '\x7b' || c == '\x7d'

def inUserinfo (c : Char) : Bool :=
  inPath c || c == '/' || c == ':' || c == ';' || c == '=' || c == '@' || c == '[' ||
    c == '\\' || c == ']' || c == '^' || c == '|'

def inQuery (c : Char) : Bool :=
  isControl c || c == ' ' || c == '"' || c == '#' || c == '<' || c == '>'

def encodes : EncodeSet → Char → Bool
  | .controls => isControl
  | .fragment => inFragment
  | .path => inPath
  | .userinfo => inUserinfo
  | .query => inQuery
  | .specialQuery => fun c => inQuery c || c == '\''

def encodeChar (set : EncodeSet) (c : Char) : List Char :=
  if c.toNat < 0x80 && !set.encodes c then [c]
  else (String.singleton c).toUTF8.toList.flatMap Percent.escapeByte

def encode (set : EncodeSet) (cs : List Char) : String :=
  String.ofList (cs.flatMap set.encodeChar)

end EncodeSet

namespace PercentDecode

def hexByte? (b : UInt8) : Option Nat :=
  RangeTable.hexDigitValue? (Char.ofNat b.toNat)

def bytes : List UInt8 → List UInt8
  | [] => []
  | [b] => [b]
  | [a, b] => [a, b]
  | b :: hi :: lo :: more =>
    match b == 37, hexByte? hi, hexByte? lo with
    | true, some h, some l => UInt8.ofNat (16 * h + l) :: bytes more
    | _, _, _ => b :: bytes (hi :: lo :: more)

def text? (cs : List Char) : Option String :=
  String.fromUTF8? (ByteArray.mk (bytes (String.ofList cs).toUTF8.toList).toArray)

end PercentDecode

end ODataBuilder
