import ODataBuilder.Text.CaseMap
import ODataBuilder.Text.Grapheme
/-!
# Case rules for field names

An identifier is cut into words at `_`, `-` and spaces, at lower-to-upper changes, before the
last of an upper-case run, and between letters and ASCII digits, working on grapheme clusters;
the words are then joined in PascalCase, camelCase or snake_case.
-/
namespace ODataBuilder

inductive CaseRule where
  | pascal | camel | snake
  deriving Repr, DecidableEq

namespace CaseRule

def graphemes (cs : List Char) : List (List Char) := Unicode.graphemes cs

def upperOf (g : List Char) : List Char := (Unicode.toUpper (String.ofList g)).toList

def lowerOf (g : List Char) : List Char := (Unicode.toLower (String.ofList g)).toList

/-- Whether a grapheme is upper-case: its own upper form, and not its lower form. -/
def isUpper (g : List Char) : Bool := upperOf g != lowerOf g && g == upperOf g

/-- Whether a grapheme is lower-case: its own lower form, and not its upper form. -/
def isLower (g : List Char) : Bool := upperOf g != lowerOf g && g == lowerOf g

def isDigit (g : List Char) : Bool := g.all Char.isDigit

def isDelimiter (g : List Char) : Bool := g == ['_'] || g == ['-'] || g == [' ']

def breaksAfterFirst : List (List Char) → Bool
  | a :: b :: rest =>
    (isLower a && isUpper b) || (isUpper a && isDigit b) || (isDigit a && isUpper b) ||
      (isDigit a && isLower b) || (isLower a && isDigit b) ||
      (match rest with
       | c :: _ => isUpper a && isUpper b && isLower c
       | [] => false)
  | _ => false

def splitWords : List (List Char) → List (List Char) → List (List (List Char))
  | [], word => [word.reverse]
  | g :: rest, word =>
    if isDelimiter g then word.reverse :: splitWords rest []
    else if breaksAfterFirst (g :: rest) then (g :: word).reverse :: splitWords rest []
    else splitWords rest (g :: word)

def words (ident : String) : List String :=
  if ident.isEmpty then []
  else (splitWords (graphemes ident.toList) []).map fun w => String.ofList w.flatten

def capitalize (word : String) : String :=
  match word.toList with
  | [] => ""
  | first :: rest => String.ofList (Unicode.toUpperChars first) ++ Unicode.toLower (String.ofList rest)

def apply (rule : CaseRule) (ident : String) : String :=
  let ws := words ident
  match rule with
  | .pascal => String.join (ws.map capitalize)
  | .camel =>
    match ws with
    | [] => ""
    | first :: rest => Unicode.toLower first ++ String.join (rest.map capitalize)
  | .snake => "_".intercalate (ws.map Unicode.toLower)

def ofName? : String → Option CaseRule
  | "PascalCase" => some .pascal
  | "camelCase" => some .camel
  | "snake_case" => some .snake
  | _ => none

end CaseRule

end ODataBuilder
