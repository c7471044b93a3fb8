import ODataBuilder.Text.Blank
/-!
# Field paths

A list of hops, outermost first, written joined by `/`; the empty path is the root.
`FieldPath.parse` splits at `/` and `.`, trims each piece and drops empty ones.
-/
namespace ODataBuilder

structure FieldPath where
  segments : List String
  deriving Repr, DecidableEq, Inhabited

namespace FieldPath

def root : FieldPath := ⟨[]⟩

def single (hop : String) : FieldPath := ⟨[hop]⟩

def child (p : FieldPath) (hop : String) : FieldPath := ⟨p.segments ++ [hop]⟩

def isRoot (p : FieldPath) : Bool := p.segments.isEmpty

def length (p : FieldPath) : Nat := p.segments.length

def leaf? (p : FieldPath) : Option String := p.segments.getLast?

def text (p : FieldPath) : String := "/".intercalate p.segments

def isSeparator (c : Char) : Bool := c == '/' || c == '.'

def pieces : List Char → List (List Char)
  | [] => [[]]
  | c :: rest =>
    match pieces rest with
    | [] => [[c]]
    | first :: more => if isSeparator c then [] :: first :: more else (c :: first) :: more

/-- Reads a written path: split at `/` and `.`, trim each piece, drop the empty ones. -/
def parse (s : String) : FieldPath :=
  ⟨((pieces s.toList).map Blank.trim).filter (· ≠ []) |>.map String.ofList⟩

/-- The nested form used by `$expand`: nothing for the root, the hop alone for one hop, and
for more the last two hops as `outer(keyword=inner)`. -/
def nestedForm (p : FieldPath) (keyword : String) : String :=
  match p.segments.reverse with
  | [] => ""
  | [single] => single
  | inner :: outer :: _ => outer ++ "(" ++ keyword ++ "=" ++ inner ++ ")"

end FieldPath

end ODataBuilder
