/-!
# Percent-encoding

A text is percent-encoded byte by byte over its UTF-8 form: ASCII letters and digits and the
four marks `-`, `.`, `_` and `~` stay as they are, and every other byte becomes `%` and two
upper-case hex digits.
-/
namespace ODataBuilder.Percent

def hexUpper (n : Nat) : Char :=
  if n < 10 then Char.ofNat (48 + n) else Char.ofNat (55 + n)

def isUnreserved (b : UInt8) : Bool :=
  let c := Char.ofNat b.toNat
  c.isAlphanum || c == '-' || c == '.' || c == '_' || c == '~'

def escapeByte (b : UInt8) : List Char :=
  ['%', hexUpper (b.toNat / 16), hexUpper (b.toNat % 16)]

def encodeByte (b : UInt8) : List Char :=
  if isUnreserved b then [Char.ofNat b.toNat] else escapeByte b

def encode (s : String) : String :=
  String.ofList (s.toUTF8.toList.flatMap encodeByte)

end ODataBuilder.Percent
