/-!
# Blank characters

The characters of the Unicode White_Space property: the ASCII blanks (tab, line feed,
vertical tab, form feed, carriage return, space), next line, no-break space, ogham space
mark, the spaces from en quad to hair space, line and paragraph separators, the narrow
no-break space, the medium mathematical space and the ideographic space.
-/
namespace ODataBuilder.Blank

def isBlank (c : Char) : Bool :=
  let n := c.toNat
  (0x09 ≤ n && n ≤ 0x0D) || n == 0x20 || n == 0x85 || n == 0xA0 || n == 0x1680 ||
    (0x2000 ≤ n && n ≤ 0x200A) || n == 0x2028 || n == 0x2029 || n == 0x202F ||
    n == 0x205F || n == 0x3000

def dropFront : List Char → List Char
  | [] => []
  | c :: rest => if isBlank c then dropFront rest else c :: rest

def strip (s : String) : String := String.ofList (s.toList.filter fun c => !isBlank c)

def trim (cs : List Char) : List Char :=
  (dropFront (dropFront cs).reverse).reverse

end ODataBuilder.Blank
