import ODataBuilder.Decl.Literal
/-!
# Reading token trees

A parser reads one level of trees at a time, a group counting as one tree. A group left
unread is reported once everything else has parsed, and a failed lookahead lists the
alternatives it tried.
-/
namespace ODataBuilder

/-- Where a parse stands: the trees left at the current level, and the delimiter of the first
group left with trees unread. -/
structure TreeCursor where
  rest : List TokenTree
  stray : Option Delimiter := none
  deriving Inhabited

/-- A parse step: reads trees from the cursor, or fails with the message to report. -/
abbrev TreeParser := StateT TreeCursor (Except String)

namespace Grammar

def keywords : List String :=
  ["_", "abstract", "as", "async", "await", "become", "box", "break", "const", "continue",
    "crate", "do", "dyn", "else", "enum", "extern", "false", "final", "fn", "for", "if", "impl",
    "in", "let", "loop", "macro", "match", "mod", "move", "mut", "override", "priv", "pub",
    "ref", "return", "Self", "self", "static", "struct", "super", "trait", "true", "try",
    "type", "typeof", "unsafe", "unsized", "use", "virtual", "where", "while", "yield"]

def isPlainIdent (name : String) : Bool := !keywords.contains name

def skipOne : List TokenTree → List TokenTree
  | .punct '\'' .joint :: .ident _ :: rest => rest
  | _ :: rest => rest
  | [] => []

def skipN : Nat → List TokenTree → List TokenTree
  | 0, ts => ts
  | n + 1, ts => skipN n (skipOne ts)

/-- Whether the trees start with the punctuation `symbols`, all but the last joint. -/
def punctsAt : List Char → List TokenTree → Bool
  | [c], .punct s _ :: _ => s == c
  | c :: more, .punct s sp :: rest => s == c && sp == .joint && punctsAt more rest
  | _, _ => false

def startsPunct (symbols : String) (ts : List TokenTree) : Bool := punctsAt symbols.toList ts

def startsWord (w : String) : List TokenTree → Bool
  | .ident n :: _ => n == w
  | _ => false

def startsIdent : List TokenTree → Bool
  | .ident n :: _ => isPlainIdent n
  | _ => false

def startsAnyIdent : List TokenTree → Bool
  | .ident _ :: _ => true
  | _ => false

def startsLifetime : List TokenTree → Bool
  | .punct '\'' .joint :: .ident _ :: _ => true
  | _ => false

def startsGroup (d : Delimiter) : List TokenTree → Bool
  | .group d' _ :: _ => d == d'
  | _ => false

def startsLiteralToken : List TokenTree → Bool
  | .literal _ :: _ => true
  | _ => false

/-- Whether the trees start with a literal: a literal token, `true` or `false`, or a minus
before a number. -/
def startsLit : List TokenTree → Bool
  | .literal _ :: _ => true
  | .ident n :: _ => n == "true" || n == "false"
  | .punct '-' _ :: .literal t :: _ => (LitKind.ofText t).isNumber
  | _ => false

def startsBool (ts : List TokenTree) : Bool := startsWord "true" ts || startsWord "false" ts

/-- The kind of the literal at the front, with the number of trees it takes. -/
def litAt : List TokenTree → Option (LitKind × String × Nat)
  | .literal t :: _ => some (LitKind.ofText t, t, 1)
  | .ident n :: _ => if n == "true" || n == "false" then some (.bool, n, 1) else none
  | .punct '-' _ :: .literal t :: _ =>
    let k := LitKind.ofText t
    if k.isNumber then some (k, "-" ++ t, 2) else none
  | _ => none

/-- The message of a failure at `rest`: prefixed when nothing is left at this level. -/
def atEndMessage (rest : List TokenTree) (message : String) : String :=
  if rest.isEmpty then "unexpected end of input, " ++ message else message

/-- The message of a lookahead that tried `tried`, in order, and found none. -/
def lookaheadMessage (rest : List TokenTree) (tried : List String) : String :=
  match tried with
  | [] => if rest.isEmpty then "unexpected end of input" else "unexpected token"
  | [a] => atEndMessage rest ("expected " ++ a)
  | [a, b] => atEndMessage rest ("expected " ++ a ++ " or " ++ b)
  | _ => atEndMessage rest ("expected one of: " ++ ", ".intercalate tried)

/-- The message for trees left unread inside a group of this delimiter, or at top level. -/
def unreadMessage : Option Delimiter → String
  | some .paren => "unexpected token, expected `)`"
  | some .brace => "unexpected token, expected `\x7d`"
  | some .bracket => "unexpected token, expected `]`"
  | none => "unexpected token"

end Grammar

namespace TreeParser

open Grammar

def rest : TreeParser (List TokenTree) := do return (← get).rest

def atEnd : TreeParser Bool := do return (← get).rest.isEmpty

def peekWith (p : List TokenTree → Bool) : TreeParser Bool := do return p (← get).rest

def peekAfter (n : Nat) (p : List TokenTree → Bool) : TreeParser Bool := do
  return p (skipN n (← get).rest)

def fail (message : String) : TreeParser α := do
  throw (atEndMessage (← get).rest message)

def failPlain (message : String) : TreeParser α := throw message

def failTried (tried : List String) : TreeParser α := do
  throw (lookaheadMessage (← get).rest tried)

def drop (n : Nat) : TreeParser Unit := modify fun c => { c with rest := c.rest.drop n }

def punct (symbols : String) : TreeParser Unit := do
  if startsPunct symbols (← rest) then drop symbols.length
  else failPlain ("expected `" ++ symbols ++ "`")

def punct? (symbols : String) : TreeParser Bool := do
  if startsPunct symbols (← rest) then drop symbols.length; return true
  else return false

def word (w : String) : TreeParser Unit := do
  if startsWord w (← rest) then drop 1 else fail ("expected `" ++ w ++ "`")

def word? (w : String) : TreeParser Bool := do
  if startsWord w (← rest) then drop 1; return true else return false

def ident : TreeParser String := do
  match (← rest) with
  | .ident n :: _ =>
    if isPlainIdent n then drop 1; return n
    else fail ("expected identifier, found keyword `" ++ n ++ "`")
  | _ => fail "expected identifier"

def anyIdent : TreeParser String := do
  match (← rest) with
  | .ident n :: _ => drop 1; return n
  | _ => fail "expected ident"

def lifetime : TreeParser Unit := do
  if startsLifetime (← rest) then drop 2 else fail "expected lifetime"

def lit : TreeParser (LitKind × String) := do
  match litAt (← rest) with
  | some (k, t, n) => drop n; return (k, t)
  | none => fail "expected literal"

/-- Runs `p` over the body of the group at the front, which must have delimiter `d`; a body
left unread marks the group. Fails with `missing` when no such group comes. -/
def inGroup (d : Delimiter) (missing : String) (p : TreeParser α) : TreeParser α := do
  let c ← get
  match c.rest with
  | .group d' body :: after =>
    if d == d' then
      let (a, inner) ← (p.run { rest := body, stray := c.stray } : Except String _)
      let stray := if inner.stray.isNone && !inner.rest.isEmpty then some d else inner.stray
      set { rest := after, stray := stray : TreeCursor }
      return a
    else fail missing
  | _ => fail missing

def parens (p : TreeParser α) : TreeParser α := inGroup .paren "expected parentheses" p

def brackets (p : TreeParser α) : TreeParser α := inGroup .bracket "expected square brackets" p

def braces (p : TreeParser α) : TreeParser α := inGroup .brace "expected curly braces" p

def anyGroup : TreeParser (Delimiter × List TokenTree) := do
  match (← rest) with
  | .group d body :: _ => drop 1; return (d, body)
  | _ => fail "expected delimiter"

/-- Runs `p` and gives the compact text of the trees it read at this level. -/
def withText (p : TreeParser α) : TreeParser (α × String) := do
  let before ← rest
  let a ← p
  let after ← rest
  return (a, TokenTree.listText (before.take (before.length - after.length)))

/-- Runs `p` over all of `trees`: fails on the first group left unread inside, or on trees
left at the top. -/
def runAll (p : TreeParser α) (trees : List TokenTree) : Except String α := do
  let (a, c) ← p.run { rest := trees }
  match c.stray with
  | some d => throw (unreadMessage (some d))
  | none => if c.rest.isEmpty then pure a else throw (unreadMessage none)

end TreeParser

end ODataBuilder
