/-!
# Token trees

Identifiers, punctuation marks (joint when punctuation follows), literals kept as written, and
groups between matching brackets. The compact text writes the tokens with nothing between.
-/
namespace ODataBuilder

inductive Delimiter where
  | paren
  | bracket
  | brace
  deriving Repr, DecidableEq, Inhabited

namespace Delimiter

def opening : Delimiter → String
  | .paren => "("
  | .bracket => "["
  | .brace => "\x7b"

def closing : Delimiter → String
  | .paren => ")"
  | .bracket => "]"
  | .brace => "\x7d"

end Delimiter

inductive Spacing where
  | joint
  | alone
  deriving Repr, DecidableEq, Inhabited

inductive TokenTree where
  | ident (name : String)
  | punct (symbol : Char) (spacing : Spacing)
  | literal (text : String)
  | group (delimiter : Delimiter) (body : List TokenTree)
  deriving Repr, Inhabited

namespace TokenTree

mutual

def text : TokenTree → String
  | .ident name => name
  | .punct symbol _ => symbol.toString
  | .literal t => t
  | .group d body => d.opening ++ listText body ++ d.closing

def listText : List TokenTree → String
  | [] => ""
  | t :: rest => t.text ++ listText rest

end

def isIdent (name : String) : TokenTree → Bool
  | .ident n => n == name
  | _ => false

def isPunct (c : Char) : TokenTree → Bool
  | .punct s _ => s == c
  | _ => false

def isGroup (d : Delimiter) : TokenTree → Bool
  | .group d' _ => d == d'
  | _ => false

mutual

def weight : TokenTree → Nat
  | .group _ body => listWeight body + 1
  | _ => 1

/-- The number of trees in a sequence, groups counted with everything inside them. -/
def listWeight : List TokenTree → Nat
  | [] => 0
  | t :: rest => t.weight + listWeight rest

end

end TokenTree

end ODataBuilder
