import ODataBuilder.Decl.Grammar
/-!
# Item declarations

Outer attributes, a visibility, then a `struct`, `enum` or `union` with its name, generics,
`where` clause and body. `ItemDecl.parse` reads a whole token sequence as one declaration.
-/
namespace ODataBuilder

structure FieldDecl where
  attrs : List MetaItem
  ident : String
  type : TypeSyntax
  deriving Repr, Inhabited

inductive FieldsShape where
  | named (fields : List FieldDecl)
  | unnamed (count : Nat)
  | unit
  deriving Repr, Inhabited

inductive ItemBody where
  | structBody (fields : FieldsShape)
  | enumBody
  | unionBody
  deriving Repr, Inhabited

/-- A declaration: attributes, visibility (compact text), name as written, the number of
generic parameters, and the body. -/
structure ItemDecl where
  attrs : List MetaItem
  vis : String
  ident : String
  params : Nat
  body : ItemBody
  deriving Repr, Inhabited

namespace Grammar

open TreeParser

/-- The segments of a module path, each a name or `super`, `self`, `Self`, `crate`; gives
their number and whether a `::` ends it. -/
def modSegments : Nat → TreeParser (Nat × Bool)
  | 0 => tooDeep
  | n + 1 => do
    let ts ← rest
    if !(startsIdent ts || startsPathKeyword ts) then return (0, true)
    discard <| anyIdent
    if !(← punct? "::") then return (1, false)
    let (count, trailing) ← modSegments n
    return (count + 1, trailing)

def modPath : Nat → TreeParser Unit
  | 0 => tooDeep
  | n + 1 => do
    discard <| punct? "::"
    let (count, trailing) ← modSegments n
    if count == 0 then discard <| ident
    else if trailing then fail "expected path segment after `::`"

def restricts : List TokenTree → Bool
  | .ident "in" :: _ => true
  | [.ident n] => n == "crate" || n == "self" || n == "super"
  | _ => false

def visibilityBody : Nat → TreeParser Unit
  | 0 => tooDeep
  | n + 1 => do
    if !(← word? "pub") then return
    match (← rest) with
    | .group .paren body :: _ =>
      if restricts body then
        parens (do
          if ← word? "in" then modPath n
          else drop 1)
    | _ => pure ()

def visibility (n : Nat) : TreeParser String := do
  let (_, text) ← withText (visibilityBody n)
  return text

def params : Nat → TreeParser Nat
  | 0 => tooDeep
  | n + 1 => do
    if ← peekWith (startsPunct ">") then return 0
    discard <| attributes n
    let ts ← rest
    if startsLifetime ts then lifetimeParam n
    else if startsIdent ts then typeParam n
    else if startsWord "const" ts then constParam n
    else if startsUnderscore ts then drop 1
    else failTried ["lifetime", "identifier", "`const`"]
    if ← peekWith (startsPunct ">") then return 1
    punct ","
    let more ← params n
    return more + 1

def generics (n : Nat) : TreeParser Nat := do
  if !(← peekWith (startsPunct "<")) then return 0
  drop 1
  let count ← params n
  punct ">"
  return count

def boundsEndAt (ts : List TokenTree) : Bool :=
  ts.isEmpty || startsGroup .brace ts || startsPunct "," ts || startsPunct ";" ts ||
    (startsPunct ":" ts && !startsPunct "::" ts) || startsPunct "=" ts

def outlives : Nat → TreeParser Unit
  | 0 => tooDeep
  | n + 1 => do
    let ts ← rest
    if ts.isEmpty || startsGroup .brace ts || startsPunct "," ts || startsPunct ";" ts ||
        startsPunct ":" ts || startsPunct "=" ts then return
    lifetime
    if ← punct? "+" then outlives n

def predicateBounds : Nat → TreeParser Unit
  | 0 => tooDeep
  | n + 1 => do
    if boundsEndAt (← rest) then return
    discard <| bound n true
    if ← punct? "+" then predicateBounds n

def predicate (n : Nat) : TreeParser Unit := do
  let ts ← rest
  if startsLifetime ts && startsPunct ":" (skipN 1 ts) then
    drop 2
    punct ":"
    outlives n
  else
    if startsWord "for" ts then boundLifetimes n
    discard <| type n true
    punct ":"
    predicateBounds n

def predicates : Nat → TreeParser Unit
  | 0 => tooDeep
  | n + 1 => do
    if boundsEndAt (← rest) then return
    predicate n
    if ← punct? "," then predicates n

def whereClause (n : Nat) : TreeParser Unit := do
  word "where"
  predicates n

def namedField (n : Nat) : TreeParser FieldDecl := do
  let attrs ← attributes n
  discard <| visibility n
  let anonymous ← peekWith startsUnderscore
  let name ← if anonymous then anyIdent else ident
  punct ":"
  let ts ← rest
  if anonymous && (startsWord "struct" ts || (startsWord "union" ts && startsGroup .brace (skipN 1 ts))) then
    let (_, text) ← withText (do drop 1; braces (modify fun c => { c with rest := [] }))
    return ⟨attrs, name, .other text⟩
  let ty ← type n true
  return ⟨attrs, name, ty⟩

def namedFields : Nat → TreeParser (List FieldDecl)
  | 0 => tooDeep
  | n + 1 => do
    if ← atEnd then return []
    let field ← namedField n
    if ← atEnd then return [field]
    punct ","
    let more ← namedFields n
    return field :: more

/-- Unnamed fields separated by commas, to the end of the level: their number. -/
def unnamedFields : Nat → TreeParser Nat
  | 0 => tooDeep
  | n + 1 => do
    if ← atEnd then return 0
    discard <| attributes n
    discard <| visibility n
    discard <| type n true
    if ← atEnd then return 1
    punct ","
    let more ← unnamedFields n
    return more + 1

def variant (n : Nat) : TreeParser Unit := do
  discard <| attributes n
  discard <| visibility n
  discard <| ident
  let ts ← rest
  if startsGroup .brace ts then discard <| braces (namedFields n)
  else if startsGroup .paren ts then discard <| parens (unnamedFields n)
  if ← punct? "=" then discard <| expr n true

def variants : Nat → TreeParser Unit
  | 0 => tooDeep
  | n + 1 => do
    if ← atEnd then return
    variant n
    if ← atEnd then return
    punct ","
    variants n

def structData (n : Nat) : TreeParser FieldsShape := do
  let hasWhere ← peekWith (startsWord "where")
  if hasWhere then whereClause n
  let ts ← rest
  if !hasWhere && startsGroup .paren ts then
    let count ← parens (unnamedFields n)
    let hasWhere ← peekWith (startsWord "where")
    if hasWhere then whereClause n
    if ← punct? ";" then return .unnamed count
    failTried (if hasWhere then ["`;`"] else ["`where`", "`;`"])
  if startsGroup .brace ts then
    let fields ← braces (namedFields n)
    return .named fields
  if ← punct? ";" then return .unit
  failTried ((if hasWhere then [] else ["`where`", "parentheses"]) ++ ["curly braces", "`;`"])

def item (n : Nat) : TreeParser ItemDecl := do
  let attrs ← attributes n
  let vis ← visibility n
  let ts ← rest
  if startsWord "struct" ts then
    drop 1
    let name ← ident
    let count ← generics n
    let fields ← structData n
    return ⟨attrs, vis, name, count, .structBody fields⟩
  if startsWord "enum" ts then
    drop 1
    let name ← ident
    let count ← generics n
    if ← peekWith (startsWord "where") then whereClause n
    braces (variants n)
    return ⟨attrs, vis, name, count, .enumBody⟩
  if startsWord "union" ts then
    drop 1
    let name ← ident
    let count ← generics n
    if ← peekWith (startsWord "where") then whereClause n
    discard <| braces (namedFields n)
    return ⟨attrs, vis, name, count, .unionBody⟩
  failTried ["`struct`", "`enum`", "`union`"]

end Grammar

namespace ItemDecl

/-- Reads a token sequence as one declaration, or gives the message of why it does not
read. -/
def parse (trees : List TokenTree) : Except String ItemDecl :=
  TreeParser.runAll (Grammar.item (Grammar.depthFor (TokenTree.listWeight trees))) trees

end ItemDecl

end ODataBuilder
