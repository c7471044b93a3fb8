import ODataBuilder.Text.Printable
import ODataBuilder.Text.ExtendMark
/-!
# Escaped quotation

A text quoted for a diagnostic: between double quotes, with `\0`, `\t`, `\r`, `\n`, `\\` and
`\"` for those characters, `\u{…}` (lower-case hex, no leading zeros) for every character that
extends the one before it or is not printable, and every other character as itself.
-/
namespace ODataBuilder.Escaped

def escapeChar (c : Char) : List Char :=
  if c.toNat = 0 then ['\\', '0']
  else if c = '\t' then ['\\', 't']
  else if c = '\r' then ['\\', 'r']
  else if c = '\n' then ['\\', 'n']
  else if c = '\\' then ['\\', '\\']
  else if c = '"' then ['\\', '"']
  else if Unicode.isGraphemeExtend c || !Unicode.isPrintable c then
    ['\\', 'u', '\x7b'] ++ Nat.toDigits 16 c.toNat ++ ['\x7d']
  else [c]

def quote (s : String) : String :=
  String.ofList ('"' :: (s.toList.flatMap escapeChar ++ ['"']))

end ODataBuilder.Escaped
