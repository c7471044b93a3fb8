import ODataBuilder.Decl.TreeParser
/-!
# The grammar of types, paths, bounds, expressions and attributes

One family of parsers, each with a depth allowance that nested calls lower (`Grammar.depthFor`
gives enough for a tree), reads the `TypeSyntax`, `ExprForm` and `MetaItem` the entity rules
need; a failed choice names the alternatives tried.
-/
namespace ODataBuilder

inductive TypeSyntax where
  /-- a path type: the identifier of its last segment, the type arguments of that segment
  when they stand in angle brackets, and the compact text -/
  | path (last : String) (args : List TypeSyntax) (text : String)
  | other (text : String)
  deriving Repr, Inhabited

namespace TypeSyntax

def text : TypeSyntax → String
  | .path _ _ t => t
  | .other t => t

end TypeSyntax

inductive SegmentArgs where
  | none
  | angle (types : List TypeSyntax)
  | paren
  deriving Repr, Inhabited

namespace SegmentArgs

def isNone : SegmentArgs → Bool
  | .none => true
  | _ => false

end SegmentArgs

/-- What the rules need of a path: a leading `::`, its number of segments, its last segment
and whether no segment has arguments. -/
structure PathShape where
  leading : Bool
  count : Nat
  last : String
  lastArgs : SegmentArgs
  modStyle : Bool
  deriving Repr, Inhabited

/-- What a parsed type is: a path, qualified or not, or anything else. -/
inductive TypeShape where
  | path (qualified : Bool) (shape : PathShape)
  | other
  deriving Repr, Inhabited

/-- A trait bound: a lifetime, a trait, or a bound kept verbatim (a `const` one). -/
inductive BoundKind where
  | lifetime
  | trait
  | verbatim
  deriving Repr, DecidableEq

/-- The binding strength of an operator in an expression, from loosest to tightest: the
loosest, for jumps and closures. -/
def Binding.jump : Nat := 0
def Binding.assign : Nat := 1
def Binding.range : Nat := 2
def Binding.or : Nat := 3
def Binding.and : Nat := 4
def Binding.compare : Nat := 6
def Binding.bitOr : Nat := 7
def Binding.bitXor : Nat := 8
def Binding.bitAnd : Nat := 9
def Binding.shift : Nat := 10
def Binding.sum : Nat := 11
def Binding.product : Nat := 12
def Binding.cast : Nat := 13

inductive ExprForm where
  | array
  | assign
  | asyncBlock
  | awaitExpr
  | binary (precedence : Nat)
  | block
  | breakExpr
  | call
  | cast
  | closure
  | constBlock
  | continueExpr
  | field
  | forLoop
  | ifExpr
  | index
  | infer
  | letExpr
  | lit (kind : LitKind) (text : String)
  | loopExpr
  | macroCall
  | matchExpr
  | methodCall
  | paren
  | path
  | range
  | rawAddress
  | reference
  | repeatArray
  | returnExpr
  | structLit
  | tryBlock
  | tryOp
  | tuple
  | unary
  | unsafeBlock
  | verbatim
  | whileExpr
  | yieldExpr
  deriving Repr, Inhabited

namespace ExprForm

def isRange : ExprForm → Bool
  | .range => true
  | _ => false

def isComparison : ExprForm → Bool
  | .binary p => p == Binding.compare
  | _ => false

end ExprForm

/-- The path of an attribute item: a leading `::` and the segment names. -/
structure MetaPath where
  leading : Bool
  segments : List String
  deriving Repr, Inhabited

namespace MetaPath

def name (p : MetaPath) : String := "::".intercalate p.segments

def isExactly (p : MetaPath) (n : String) : Bool := !p.leading && p.segments == [n]

end MetaPath

inductive MetaValue where
  | lit (kind : LitKind) (text : String)
  | expr (form : ExprForm)
  deriving Repr, Inhabited

inductive MetaItem where
  | word (path : MetaPath)
  | list (path : MetaPath) (body : List TokenTree)
  | nameValue (path : MetaPath) (value : MetaValue)
  deriving Repr, Inhabited

namespace MetaItem

def path : MetaItem → MetaPath
  | .word p => p
  | .list p _ => p
  | .nameValue p _ => p

end MetaItem

namespace Grammar

open TreeParser

def tooDeep : TreeParser α := failPlain "nesting too deep"

def depthFor (w : Nat) : Nat := 16 * w + 64

/-- The compound assignments, then the binary operators, in the order they are tried, each
with its precedence. -/
def binaryOperators : List (String × Nat) :=
  [("+=", Binding.assign), ("-=", Binding.assign), ("*=", Binding.assign),
    ("/=", Binding.assign), ("%=", Binding.assign), ("^=", Binding.assign),
    ("&=", Binding.assign), ("|=", Binding.assign), ("<<=", Binding.assign),
    (">>=", Binding.assign), ("&&", Binding.and), ("||", Binding.or),
    ("<<", Binding.shift), (">>", Binding.shift), ("==", Binding.compare),
    ("<=", Binding.compare), ("!=", Binding.compare), (">=", Binding.compare),
    ("+", Binding.sum), ("-", Binding.sum), ("*", Binding.product),
    ("/", Binding.product), ("%", Binding.product), ("^", Binding.bitXor),
    ("&", Binding.bitAnd), ("|", Binding.bitOr), ("<", Binding.compare),
    (">", Binding.compare)]

def binaryAt (ts : List TokenTree) : Option (String × Nat) :=
  binaryOperators.find? fun (s, _) => startsPunct s ts

/-- The precedence of what follows an operand: an operator, `=`, `..`, `as`, or the loosest. -/
def precedenceAt (ts : List TokenTree) : Nat :=
  match binaryAt ts with
  | some (_, p) => p
  | none =>
    if startsPunct "=" ts && !startsPunct "=>" ts then Binding.assign
    else if startsPunct ".." ts then Binding.range
    else if startsWord "as" ts then Binding.cast
    else Binding.jump

/-- The alternatives tried, in order, up to the first that fits; and whether one fit. -/
def tryInOrder (ts : List TokenTree) : List ((List TokenTree → Bool) × String) → List String × Bool
  | [] => ([], false)
  | (p, shown) :: more =>
    if p ts then ([], true)
    else let (tried, ok) := tryInOrder ts more; (shown :: tried, ok)

/-- Whether the trees start with a keyword-led path segment (`super`, `self`, `Self`,
`crate`). -/
def startsPathKeyword (ts : List TokenTree) : Bool :=
  startsWord "super" ts || startsWord "self" ts || startsWord "Self" ts || startsWord "crate" ts

def startsUnderscore (ts : List TokenTree) : Bool := startsWord "_" ts || startsPunct "_" ts

def rangeEndsAt (allowStruct : Bool) (ts : List TokenTree) : Bool :=
  ts.isEmpty || startsPunct "," ts || startsPunct ";" ts ||
    (startsPunct "." ts && !startsPunct ".." ts) || startsPunct "?" ts || startsPunct "=>" ts ||
    (!allowStruct && startsGroup .brace ts) || (startsPunct "=" ts && !startsPunct "==" ts)

def afterCast? (ts : List TokenTree) : Option String :=
  if startsPunct "." ts && !startsPunct ".." ts then
    let after := skipN 1 ts
    if startsWord "await" after then some "`.await`"
    else if startsIdent after &&
        (startsGroup .paren (skipN 1 after) || startsPunct "::" (skipN 1 after)) then
      some "a method call"
    else some "a field access"
  else if startsPunct "?" ts then some "`?`"
  else if startsGroup .bracket ts then some "indexing"
  else if startsGroup .paren ts then some "a function call"
  else none

def skipPast (c : Char) : List TokenTree → List TokenTree
  | [] => []
  | .punct s _ :: rest => if s == c then rest else skipPast c rest
  | _ :: rest => skipPast c rest

def valueEndsHere : TreeParser Bool := do
  let ts ← rest
  return ts.isEmpty || startsPunct "," ts || startsPunct ";" ts

def skipBlock : TreeParser Unit := braces (modify fun c => { c with rest := [] })

/-- Whether an `=` stands alone, and is not part of `==`, `=>`, `<=`, `>=`, `!=` or `..=`. -/
def loneEquals (previous : Option Char) (spacing : Spacing) (after : List TokenTree) : Bool :=
  let joinedBefore := match previous with
    | some '.' | some '<' | some '>' | some '!' | some '=' => true
    | _ => false
  let joinedAfter := spacing == .joint && (startsPunct "=" after || startsPunct ">" after)
  !joinedBefore && !joinedAfter

/-- The trees from the end of a pattern on: from the word `in` when `inLoop`, else from the
first `=` that stands alone. `previous` is the punctuation just passed, if any. -/
def afterPattern (inLoop : Bool) : Option Char → List TokenTree → List TokenTree
  | _, [] => []
  | previous, t :: more =>
    match t with
    | .ident "in" => if inLoop then t :: more else afterPattern inLoop none more
    | .punct c spacing =>
      if !inLoop && c == '=' && loneEquals previous spacing more then t :: more
      else afterPattern inLoop (if spacing == .joint then some c else none) more
    | _ => afterPattern inLoop none more

/-- Skips a pattern, up to the `in` of a `for` loop or the `=` of a `let`. -/
def skipPattern (stop : String) : TreeParser Unit :=
  modify fun c => { c with rest := afterPattern (stop == "in") none c.rest }

def startsBuiltin (ts : List TokenTree) : Bool :=
  startsWord "builtin" ts && startsPunct "#" (skipN 1 ts)

/-- A built-in form, `builtin # name(…)`, kept verbatim: its arguments are not read. -/
def builtin : TreeParser Unit := do
  drop 2
  discard <| ident
  parens (modify fun c => { c with rest := [] })

mutual

/-- A type with its shape and compact text (`allowPlus`: a trait object may go on with `+`). -/
def typeShaped : Nat → Bool → TreeParser (TypeShape × String)
  | 0, _ => tooDeep
  | n + 1, allowPlus => withText (typeBody n allowPlus)

def type : Nat → Bool → TreeParser TypeSyntax
  | 0, _ => tooDeep
  | n + 1, allowPlus => do
    let (shape, text) ← typeShaped n allowPlus
    match shape with
    | .path _ p =>
      match p.lastArgs with
      | .angle args => return .path p.last args text
      | _ => return .path p.last [] text
    | .other => return .other text

def typeBody : Nat → Bool → TreeParser TypeShape
  | 0, _ => tooDeep
  | n + 1, allowPlus => do
    let ts ← rest
    if startsBuiltin ts then
      builtin
      return .other
    let (tried, lifetimes) ← do
      if startsWord "for" ts then
        boundLifetimes n
        let ts ← rest
        let (tried, ok) := tryInOrder ts [(startsIdent, "identifier"), (startsWord "fn", "`fn`"),
          (startsWord "unsafe", "`unsafe`"), (startsWord "extern", "`extern`"),
          (startsWord "super", "`super`"), (startsWord "self", "`self`"),
          (startsWord "Self", "`Self`"), (startsWord "crate", "`crate`")]
        if !ok || startsWord "dyn" ts then failTried tried
        pure (tried, true)
      else pure (["`for`"], false)
    let ts ← rest
    if startsGroup .paren ts then
      typeParen n allowPlus
    else
      let tried := tried ++ ["parentheses"]
      if startsWord "fn" ts || startsWord "unsafe" ts || startsWord "extern" ts then
        bareFn n
        return .other
      let tried := tried ++ ["`fn`", "`unsafe`", "`extern`"]
      if startsIdent ts || startsPathKeyword ts || startsPunct "::" ts || startsPunct "<" ts then
        typeAfterPath n allowPlus lifetimes
      else
        let tried := tried ++ ["identifier", "`::`", "`<`"]
        if startsWord "dyn" ts then
          drop 1
          discard <| punct? "*"
          objectBounds n allowPlus
          return .other
        let tried := tried ++ ["`dyn`"]
        if startsGroup .bracket ts then
          brackets (do
            discard <| type n true
            if ← peekWith (startsPunct ";") then
              drop 1
              discard <| expr n true)
          return .other
        let tried := tried ++ ["square brackets"]
        if startsPunct "*" ts then
          drop 1
          let ts ← rest
          if startsWord "const" ts || startsWord "mut" ts then drop 1
          else failTried ["`const`", "`mut`"]
          discard <| type n false
          return .other
        let tried := tried ++ ["`*`"]
        if startsPunct "&" ts then
          drop 1
          if ← peekWith startsLifetime then drop 2
          discard <| word? "mut"
          discard <| type n false
          return .other
        let tried := tried ++ ["`&`"]
        if startsPunct "!" ts then
          drop 1
          return .other
        let tried := tried ++ ["`!`"]
        if startsWord "impl" ts then
          drop 1
          let bounds ← boundList n allowPlus true
          if !bounds.any (· != .lifetime) then failPlain "at least one trait must be specified"
          return .other
        let tried := tried ++ ["`impl`"]
        if startsUnderscore ts then
          drop 1
          return .other
        let tried := tried ++ ["`_`"]
        if startsLifetime ts then
          objectBounds n true
          return .other
        failTried (tried ++ ["lifetime"])

/-- A type in parentheses: the unit type, a tuple, a parenthesised type, or a trait object. -/
def typeParen : Nat → Bool → TreeParser TypeShape
  | 0, _ => tooDeep
  | n + 1, allowPlus => do
    -- what the body was: 0 unit or tuple, 1 lifetime object, 2 `?` bound, 3 one plain path
    let kind ← parens (do
      let body ← rest
      if body.isEmpty then return 0
      if startsLifetime body then
        objectBounds n true
        return 1
      if startsPunct "?" body then
        discard <| traitBound n false
        return 2
      let (shape, _) ← typeShaped n true
      if ← peekWith (startsPunct ",") then
        drop 1
        tupleRest n
        return 0
      match shape with
      | .path false _ => return 3
      | _ => return 4)
    if kind == 2 || (kind == 3 && allowPlus && (← peekWith (startsPunct "+"))) then
      plusBounds n
    return .other

def tupleRest : Nat → TreeParser Unit
  | 0 => tooDeep
  | n + 1 => do
    if ← atEnd then return
    discard <| type n true
    if ← atEnd then return
    punct ","
    tupleRest n

def plusBounds : Nat → TreeParser Unit
  | 0 => tooDeep
  | n + 1 => do
    if ← punct? "+" then
      discard <| bound n false
      plusBounds n

/-- A type that starts with a path: a path type, a macro, or a trait object. -/
def typeAfterPath : Nat → Bool → Bool → TreeParser TypeShape
  | 0, _, _ => tooDeep
  | n + 1, allowPlus, lifetimes => do
    let (qualified, shape) ← typePath n
    if qualified then return .path true shape
    let ts ← rest
    if startsPunct "!" ts && !startsPunct "!=" ts && shape.modStyle then
      drop 1
      discard <| anyGroup
      return .other
    if lifetimes || (allowPlus && startsPunct "+" ts) then
      objectPlus n
      return .other
    return .path false shape

/-- The bounds of a trait object after its first: each `+` and, while one can start there,
a bound. -/
def objectPlus : Nat → TreeParser Unit
  | 0 => tooDeep
  | n + 1 => do
    if ← punct? "+" then
      let ts ← rest
      if startsAnyIdent ts || startsPunct "::" ts || startsPunct "?" ts || startsLifetime ts ||
          startsGroup .paren ts then
        discard <| bound n false
        objectPlus n

/-- The bounds of a trait object, at least one of them a trait. -/
def objectBounds : Nat → Bool → TreeParser Unit
  | 0, _ => tooDeep
  | n + 1, allowPlus => do
    let bounds ← boundList n allowPlus false
    if !bounds.any (· != .lifetime) then
      failPlain "at least one trait is required for an object type"

def boundList : Nat → Bool → Bool → TreeParser (List BoundKind)
  | 0, _, _ => tooDeep
  | n + 1, allowPlus, allowConst => do
    let b ← bound n allowConst
    if !(allowPlus && (← peekWith (startsPunct "+"))) then return [b]
    drop 1
    let ts ← rest
    if startsAnyIdent ts || startsPunct "::" ts || startsPunct "?" ts || startsLifetime ts ||
        startsGroup .paren ts ||
        (allowConst && (startsGroup .bracket ts || startsWord "const" ts)) then
      let more ← boundList n allowPlus allowConst
      return b :: more
    return [b]

def bound : Nat → Bool → TreeParser BoundKind
  | 0, _ => tooDeep
  | n + 1, allowConst => do
    let ts ← rest
    if startsLifetime ts then
      drop 2
      return .lifetime
    if startsWord "use" ts then
      drop 1
      punct "<"
      modify fun c => { c with rest := skipPast '>' c.rest }
      failPlain "`use<...>` precise capturing syntax is not allowed here"
    let verbatim ← if startsGroup .paren ts then parens (traitBound n allowConst)
      else traitBound n allowConst
    return if verbatim then .verbatim else .trait

def traitBound : Nat → Bool → TreeParser Bool
  | 0, _ => tooDeep
  | n + 1, allowConst => do
    let lifetimes ← if ← peekWith (startsWord "for") then boundLifetimes n; pure true
      else pure false
    let ts ← rest
    let conditional := startsGroup .bracket ts
    let always := startsWord "const" ts
    if conditional then
      brackets (word "const")
      if !allowConst then failPlain "`[const]` is not allowed here"
    else if always then
      drop 1
      if !allowConst then failPlain "`const` is not allowed here"
    let maybe ← punct? "?"
    if !lifetimes && maybe && (← peekWith (startsWord "for")) then boundLifetimes n
    let shape ← path n false
    let ts ← rest
    if shape.lastArgs.isNone &&
        (startsGroup .paren ts || (startsPunct "::" ts && startsGroup .paren (skipN 2 ts))) then
      discard <| punct? "::"
      parenArgs n
    return conditional || always

def boundLifetimes : Nat → TreeParser Unit
  | 0 => tooDeep
  | n + 1 => do
    word "for"
    punct "<"
    boundParams n
    punct ">"

def boundParams : Nat → TreeParser Unit
  | 0 => tooDeep
  | n + 1 => do
    if ← peekWith (startsPunct ">") then return
    genericParam n
    if ← peekWith (startsPunct ">") then return
    punct ","
    boundParams n

/-- A generic parameter: a type, a lifetime or a constant, tried in that order. -/
def genericParam : Nat → TreeParser Unit
  | 0 => tooDeep
  | n + 1 => do
    discard <| attributes n
    let ts ← rest
    if startsIdent ts then typeParam n
    else if startsLifetime ts then lifetimeParam n
    else if startsWord "const" ts then constParam n
    else failTried ["identifier", "lifetime", "`const`"]

def typeParam : Nat → TreeParser Unit
  | 0 => tooDeep
  | n + 1 => do
    discard <| ident
    if ← punct? ":" then paramBounds n
    if ← punct? "=" then
      discard <| type n true

def paramBounds : Nat → TreeParser Unit
  | 0 => tooDeep
  | n + 1 => do
    let ts ← rest
    if startsPunct "," ts || startsPunct ">" ts || startsPunct "=" ts then return
    discard <| bound n true
    if ← punct? "+" then paramBounds n

def lifetimeParam : Nat → TreeParser Unit
  | 0 => tooDeep
  | n + 1 => do
    lifetime
    if ← punct? ":" then lifetimeBounds n

def lifetimeBounds : Nat → TreeParser Unit
  | 0 => tooDeep
  | n + 1 => do
    let ts ← rest
    if startsPunct "," ts || startsPunct ">" ts then return
    lifetime
    if ← punct? "+" then lifetimeBounds n

/-- A constant parameter: `const`, a name, `:`, a type, and a default after `=`. -/
def constParam : Nat → TreeParser Unit
  | 0 => tooDeep
  | n + 1 => do
    word "const"
    discard <| ident
    punct ":"
    discard <| type n true
    if ← punct? "=" then constArgument n

def constArgument : Nat → TreeParser Unit
  | 0 => tooDeep
  | _ + 1 => do
    let ts ← rest
    if startsLit ts then
      discard <| lit
    else if startsIdent ts then
      discard <| ident
    else if startsGroup .brace ts then drop 1
    else failTried []

def bareFn : Nat → TreeParser Unit
  | 0 => tooDeep
  | n + 1 => do
    if ← peekWith (startsWord "for") then boundLifetimes n
    discard <| word? "unsafe"
    if ← word? "extern" then
      if (← peekWith startsLiteralToken) then
        let ts ← rest
        match ts with
        | .literal t :: _ => if LitKind.ofText t == .str then drop 1
        | _ => pure ()
    word "fn"
    parens (fnArgs n true)
    if ← punct? "->" then
      discard <| type n false

def fnArgs : Nat → Bool → TreeParser Unit
  | 0, _ => tooDeep
  | n + 1, first => do
    if ← atEnd then return
    discard <| attributes n
    let ts ← rest
    let named := (startsIdent ts || startsUnderscore ts) && startsPunct ":" (skipN 1 ts)
    if first && (startsPunct "..." ts || (named && startsPunct "..." (skipN 2 ts))) then
      if named then drop 2
      punct "..."
      discard <| punct? ","
      return
    if (startsIdent ts || startsUnderscore ts || startsWord "self" ts) &&
        startsPunct ":" (skipN 1 ts) && !startsPunct "::" (skipN 1 ts) then
      drop 2
    discard <| type n true
    if ← atEnd then return
    punct ","
    fnArgs n false

/-- A path as a type: qualified (`<T as Trait>::Name`) or plain. Parenthesised arguments
(`Fn(A) -> B`) belong to trait bounds only, so here they end the type. -/
def typePath : Nat → TreeParser (Bool × PathShape)
  | 0 => tooDeep
  | n + 1 => qualifiedPath n false

def parenArgs : Nat → TreeParser Unit
  | 0 => tooDeep
  | n + 1 => do
    parens (typeList n)
    if ← punct? "->" then
      discard <| type n false

def typeList : Nat → TreeParser Unit
  | 0 => tooDeep
  | n + 1 => do
    if ← atEnd then return
    discard <| type n true
    if ← atEnd then return
    punct ","
    typeList n

/-- A path that may be qualified: `<T>::…` or `<T as Trait>::…`, or a plain path. -/
def qualifiedPath : Nat → Bool → TreeParser (Bool × PathShape)
  | 0, _ => tooDeep
  | n + 1, exprStyle => do
    if ← peekWith (startsPunct "<") then
      drop 1
      discard <| type n true
      let traitSegments ← if ← word? "as" then
          let p ← path n false
          pure p.count
        else pure 0
      punct ">"
      punct "::"
      let (count, last, args, modStyle) ← segmentsAfter n exprStyle
      return (true, ⟨traitSegments == 0, traitSegments + count, last, args, modStyle⟩)
    else
      let shape ← path n exprStyle
      return (false, shape)

/-- Segments separated by `::`: their number, the last one and whether none has
arguments. -/
def segmentsAfter : Nat → Bool → TreeParser (Nat × String × SegmentArgs × Bool)
  | 0, _ => tooDeep
  | n + 1, exprStyle => do
    let (name, args) ← segment n exprStyle
    if ← punct? "::" then
      let (count, last, lastArgs, modStyle) ← segmentsAfter n exprStyle
      return (count + 1, last, lastArgs, modStyle && args.isNone)
    return (1, name, args, args.isNone)

def path : Nat → Bool → TreeParser PathShape
  | 0, _ => tooDeep
  | n + 1, exprStyle => do
    let leading ← punct? "::"
    let (name, args) ← segment n exprStyle
    let (count, last, lastArgs, modStyle) ← pathRest n exprStyle name args
    return ⟨leading, count, last, lastArgs, modStyle⟩

def pathRest : Nat → Bool → String → SegmentArgs → TreeParser (Nat × String × SegmentArgs × Bool)
  | 0, _, _, _ => tooDeep
  | n + 1, exprStyle, name, args => do
    let ts ← rest
    if startsPunct "::" ts && !startsGroup .paren (skipN 2 ts) then
      drop 2
      let (next, nextArgs) ← segment n exprStyle
      let (count, last, lastArgs, modStyle) ← pathRest n exprStyle next nextArgs
      return (count + 1, last, lastArgs, modStyle && args.isNone)
    return (1, name, args, args.isNone)

/-- One path segment: a name and its angle-bracketed arguments (in an expression, only
after `::`). -/
def segment : Nat → Bool → TreeParser (String × SegmentArgs)
  | 0, _ => tooDeep
  | n + 1, exprStyle => do
    let ts ← rest
    if startsWord "super" ts || startsWord "self" ts || startsWord "crate" ts ||
        startsWord "try" ts then
      let name ← anyIdent
      return (name, .none)
    let name ← if startsWord "Self" ts then anyIdent else ident
    let ts ← rest
    if (!exprStyle && startsPunct "<" ts && !startsPunct "<=" ts) ||
        (startsPunct "::" ts && startsPunct "<" (skipN 2 ts)) then
      let args ← angleArgs n
      return (name, .angle args)
    return (name, .none)

def angleArgs : Nat → TreeParser (List TypeSyntax)
  | 0 => tooDeep
  | n + 1 => do
    discard <| punct? "::"
    punct "<"
    let args ← argList n
    punct ">"
    return args

def argList : Nat → TreeParser (List TypeSyntax)
  | 0 => tooDeep
  | n + 1 => do
    if ← peekWith (startsPunct ">") then return []
    let arg ← genericArg n
    if ← peekWith (startsPunct ">") then return arg.toList
    punct ","
    let more ← argList n
    return arg.toList ++ more

/-- One generic argument: a lifetime, a constant, an associated type or constant, a
constraint, or a type (the only kind given back). -/
def genericArg : Nat → TreeParser (Option TypeSyntax)
  | 0 => tooDeep
  | n + 1 => do
    let ts ← rest
    if startsLifetime ts && !startsPunct "+" (skipN 1 ts) then
      drop 2
      return none
    if startsLit ts || startsGroup .brace ts then
      constArgument n
      return none
    let (shape, text) ← typeShaped n true
    match shape with
    | .path false p =>
      let single := !p.leading && p.count == 1 &&
        (match p.lastArgs with | .paren => false | _ => true)
      if single then
        if ← punct? "=" then
          let ts ← rest
          if startsLit ts || startsGroup .brace ts then constArgument n
          else
            discard <| type n true
          return none
        if ← punct? ":" then
          paramBounds n
          return none
      match p.lastArgs with
      | .angle args => return some (.path p.last args text)
      | _ => return some (.path p.last [] text)
    | .path true p =>
      match p.lastArgs with
      | .angle args => return some (.path p.last args text)
      | _ => return some (.path p.last [] text)
    | .other => return some (.other text)

def attributes : Nat → TreeParser (List MetaItem)
  | 0 => tooDeep
  | n + 1 => do
    if ← peekWith (startsPunct "#") then
      drop 1
      let item ← brackets (metaItem n)
      let more ← attributes n
      return item :: more
    return []

/-- An attribute item: a path, then a group, or `=` and a value, or nothing. -/
def metaItem : Nat → TreeParser MetaItem
  | 0 => tooDeep
  | n + 1 => do
    let p ← metaPath n
    let ts ← rest
    if startsGroup .paren ts || startsGroup .bracket ts || startsGroup .brace ts then
      let (_, body) ← anyGroup
      return .list p body
    if startsPunct "=" ts then
      drop 1
      let value ← metaValue n
      return .nameValue p value
    return .word p

def metaPath : Nat → TreeParser MetaPath
  | 0 => tooDeep
  | n + 1 => do
    let leading ← punct? "::"
    let ts ← rest
    if startsAnyIdent ts then
      let first ← anyIdent
      let more ← metaPathRest n
      return ⟨leading, first :: more⟩
    if ts.isEmpty then fail "expected nested attribute"
    if startsLit ts then fail "unexpected literal in nested attribute, expected ident"
    fail "unexpected token in nested attribute, expected ident"

def metaPathRest : Nat → TreeParser (List String)
  | 0 => tooDeep
  | n + 1 => do
    if ← punct? "::" then
      let name ← anyIdent
      let more ← metaPathRest n
      return name :: more
    return []

/-- The value after `=`: a literal that fills the rest, or an expression. -/
def metaValue : Nat → TreeParser MetaValue
  | 0 => tooDeep
  | n + 1 => do
    let ts ← rest
    match litAt ts with
    | some (k, t, count) =>
      if (ts.drop count).isEmpty then
        drop count
        return .lit k t
    | none => pure ()
    if startsPunct "#" ts && startsGroup .bracket (skipN 1 ts) then
      fail "unexpected attribute inside of attribute"
    let form ← expr n true
    match form with
    | .lit k t => return .lit k t
    | f => return .expr f

def expr : Nat → Bool → TreeParser ExprForm
  | 0, _ => tooDeep
  | n + 1, allowStruct => do
    let lhs ← unary n allowStruct
    binaryTail n allowStruct lhs Binding.jump

def binaryTail : Nat → Bool → ExprForm → Nat → TreeParser ExprForm
  | 0, _, _, _ => tooDeep
  | n + 1, allowStruct, lhs, base => do
    if lhs.isRange then return lhs
    let ts ← rest
    match binaryAt ts with
    | some (symbol, p) =>
      if p < base then return lhs
      if p == Binding.compare && lhs.isComparison then
        fail "comparison operators cannot be chained"
      drop symbol.length
      discard <| binaryRight n allowStruct p
      binaryTail n allowStruct (.binary p) base
    | none =>
      if Binding.assign ≥ base && startsPunct "=" ts && !startsPunct "=>" ts then
        drop 1
        discard <| binaryRight n allowStruct Binding.assign
        binaryTail n allowStruct .assign base
      else if Binding.range ≥ base && startsPunct ".." ts then
        rangeEnd n allowStruct
        binaryTail n allowStruct .range base
      else if Binding.cast ≥ base && startsWord "as" ts then
        drop 1
        discard <| type n false
        match afterCast? (← rest) with
        | some what => fail ("casts cannot be followed by " ++ what)
        | none => binaryTail n allowStruct .cast base
      else return lhs

def rangeEnd : Nat → Bool → TreeParser Unit
  | 0, _ => tooDeep
  | n + 1, allowStruct => do
    let ts ← rest
    if startsPunct "..=" ts then
      drop 3
      discard <| binaryRight n allowStruct Binding.range
    else if startsPunct "..." ts then failTried ["`..=`"]
    else
      drop 2
      if !rangeEndsAt allowStruct (← rest) then
        discard <| binaryRight n allowStruct Binding.range

/-- The right operand of an operator of precedence `p`, with the tighter operators after
it. -/
def binaryRight : Nat → Bool → Nat → TreeParser ExprForm
  | 0, _, _ => tooDeep
  | n + 1, allowStruct, p => do
    let rhs ← unary n allowStruct
    rightTail n allowStruct p rhs

def rightTail : Nat → Bool → Nat → ExprForm → TreeParser ExprForm
  | 0, _, _, _ => tooDeep
  | n + 1, allowStruct, p, rhs => do
    let ts ← rest
    let next := precedenceAt ts
    if next > p || (next == p && p == Binding.assign) then
      let rhs ← binaryTail n allowStruct rhs next
      if (← rest).length == ts.length then return rhs
      rightTail n allowStruct p rhs
    else return rhs

/-- A prefix expression: a reference, a unary operator, or an operand with its trailers. -/
def unary : Nat → Bool → TreeParser ExprForm
  | 0, _ => tooDeep
  | n + 1, allowStruct => do
    discard <| attributes n
    let ts ← rest
    if startsPunct "&" ts then
      drop 1
      let ts ← rest
      if startsWord "raw" ts && (startsWord "mut" (skipN 1 ts) || startsWord "const" (skipN 1 ts)) then
        drop 2
        discard <| unary n allowStruct
        return .rawAddress
      discard <| word? "mut"
      discard <| unary n allowStruct
      return .reference
    if startsPunct "*" ts || startsPunct "!" ts || startsPunct "-" ts then
      drop 1
      discard <| unary n allowStruct
      return .unary
    let atom ← operand n allowStruct
    trailers n atom

def trailers : Nat → ExprForm → TreeParser ExprForm
  | 0, _ => tooDeep
  | n + 1, e => do
    let ts ← rest
    if startsGroup .paren ts then
      parens (exprList n)
      trailers n .call
    else if startsPunct "." ts && !startsPunct ".." ts && !e.isRange then
      drop 1
      let ts ← rest
      match ts with
      | .literal t :: _ =>
        if LitKind.ofText t == .float then
          drop 1
          trailers n .field
        else
          if LitKind.ofText t == .int then
            if !(t.toList.all Char.isDigit) then failPlain "expected unsuffixed integer"
            drop 1
            trailers n .field
          else fail "expected identifier or integer"
      | _ =>
        if startsWord "await" ts then
          drop 1
          trailers n .awaitExpr
        else if startsIdent ts then
          drop 1
          let turbofish ← if ← peekWith (startsPunct "::") then
              discard <| angleArgs n
              pure true
            else pure false
          if turbofish || (← peekWith (startsGroup .paren)) then
            parens (exprList n)
            trailers n .methodCall
          else trailers n .field
        else fail "expected identifier or integer"
    else if startsGroup .bracket ts then
      brackets (do discard <| expr n true)
      trailers n .index
    else if startsPunct "?" ts && !e.isRange then
      drop 1
      trailers n .tryOp
    else return e

def exprList : Nat → TreeParser Unit
  | 0 => tooDeep
  | n + 1 => do
    if ← atEnd then return
    discard <| expr n true
    if ← atEnd then return
    punct ","
    exprList n

/-- The operand of an expression, by its first tree, tried in the order the forms are told
apart: literals, `async` and `try` blocks, closures, paths, macros and struct literals, then
the keyword forms, blocks, ranges, `_` and labeled loops. -/
def operand : Nat → Bool → TreeParser ExprForm
  | 0, _ => tooDeep
  | n + 1, allowStruct => do
    let ts ← rest
    if startsLit ts then
      let (k, t) ← lit
      return .lit k t
    if startsWord "async" ts &&
        (startsGroup .brace (skipN 1 ts) ||
          (startsWord "move" (skipN 1 ts) && startsGroup .brace (skipN 2 ts))) then
      drop 1
      discard <| word? "move"
      skipBlock
      return .asyncBlock
    if startsWord "try" ts && startsGroup .brace (skipN 1 ts) then
      drop 1
      skipBlock
      return .tryBlock
    if startsPunct "|" ts || startsWord "move" ts || startsWord "static" ts ||
        (startsWord "for" ts && startsPunct "<" (skipN 1 ts) &&
          (startsLifetime (skipN 2 ts) || startsPunct ">" (skipN 2 ts))) ||
        (startsWord "const" ts && !startsGroup .brace (skipN 1 ts)) ||
        (startsWord "async" ts && (startsPunct "|" (skipN 1 ts) || startsWord "move" (skipN 1 ts))) then
      closure n allowStruct
      return .closure
    if startsBuiltin ts then
      builtin
      return .verbatim
    if startsIdent ts || startsPunct "::" ts || startsPunct "<" ts || startsPathKeyword ts then
      let (qualified, shape) ← qualifiedPath n true
      let ts ← rest
      if !qualified && startsPunct "!" ts && !startsPunct "!=" ts && shape.modStyle then
        drop 1
        discard <| anyGroup
        return .macroCall
      if allowStruct && startsGroup .brace ts then
        drop 1
        return .structLit
      return .path
    if startsGroup .paren ts then
      return ← parens (parenBody n)
    if startsWord "break" ts then
      drop 1
      if ← peekWith startsLifetime then drop 2
      if !(← valueEndsHere) then
        discard <| expr n allowStruct
      return .breakExpr
    if startsWord "continue" ts then
      drop 1
      if ← peekWith startsLifetime then drop 2
      return .continueExpr
    if startsWord "return" ts then
      drop 1
      if !(← valueEndsHere) then
        discard <| expr n allowStruct
      return .returnExpr
    if startsWord "become" ts then
      drop 1
      discard <| expr n true
      return .verbatim
    if startsGroup .bracket ts then
      return ← brackets (bracketBody n)
    if startsWord "let" ts then
      drop 1
      skipPattern "="
      punct "="
      let lhs ← unary n allowStruct
      discard <| binaryTail n allowStruct lhs Binding.compare
      return .letExpr
    if startsWord "if" ts then
      ifRest n
      return .ifExpr
    if startsWord "while" ts || startsWord "for" ts || startsWord "loop" ts then
      return ← loopRest n
    if startsWord "match" ts then
      drop 1
      discard <| expr n false
      skipBlock
      return .matchExpr
    if startsWord "yield" ts then
      drop 1
      if !(← valueEndsHere) then
        discard <| expr n true
      return .yieldExpr
    if startsWord "unsafe" ts then
      drop 1
      skipBlock
      return .unsafeBlock
    if startsWord "const" ts && startsGroup .brace (skipN 1 ts) then
      drop 2
      return .constBlock
    if startsGroup .brace ts then
      drop 1
      return .block
    if startsPunct ".." ts then
      rangeEnd n allowStruct
      return .range
    if startsUnderscore ts then
      drop 1
      return .infer
    if startsLifetime ts then
      drop 2
      punct ":"
      let ts ← rest
      if startsWord "while" ts || startsWord "for" ts || startsWord "loop" ts then
        return ← loopRest n
      if startsGroup .brace ts then
        drop 1
        return .block
      fail "expected loop or block expression"
    fail "expected an expression"

/-- A loop: `while` and its condition, `for`, its pattern and what it runs over, or `loop`;
then its block. -/
def loopRest : Nat → TreeParser ExprForm
  | 0 => tooDeep
  | n + 1 => do
    let ts ← rest
    if startsWord "while" ts then
      drop 1
      discard <| expr n false
      skipBlock
      return .whileExpr
    if startsWord "for" ts then
      drop 1
      skipPattern "in"
      word "in"
      discard <| expr n false
      skipBlock
      return .forLoop
    word "loop"
    skipBlock
    return .loopExpr

def ifRest : Nat → TreeParser Unit
  | 0 => tooDeep
  | n + 1 => do
    word "if"
    discard <| expr n false
    braces (modify fun c => { c with rest := [] })
    if ← word? "else" then
      if ← peekWith (startsWord "if") then ifRest n
      else braces (modify fun c => { c with rest := [] })

/-- A closure: `for<…>`, `const`, `static`, `async` and `move`, each optional and in that
order, the parameters between bars, an optional return type, the body. -/
def closure : Nat → Bool → TreeParser Unit
  | 0, _ => tooDeep
  | n + 1, allowStruct => do
    if ← peekWith (startsWord "for") then boundLifetimes n
    discard <| word? "const"
    discard <| word? "static"
    discard <| word? "async"
    discard <| word? "move"
    if !(← punct? "||") then
      punct "|"
      modify fun c => { c with rest := skipPast '|' c.rest }
    if ← punct? "->" then
      discard <| type n false
      braces (modify fun c => { c with rest := [] })
    else
      discard <| expr n allowStruct

/-- The body of parentheses in an expression: the unit value, a parenthesised expression or
a tuple. -/
def parenBody : Nat → TreeParser ExprForm
  | 0 => tooDeep
  | n + 1 => do
    if ← atEnd then return .tuple
    discard <| expr n true
    if ← atEnd then return .paren
    commaRest n
    return .tuple

/-- The elements after the first of a tuple or array: each after a comma. -/
def commaRest : Nat → TreeParser Unit
  | 0 => tooDeep
  | n + 1 => do
    if ← atEnd then return
    punct ","
    if ← atEnd then return
    discard <| expr n true
    commaRest n

/-- The body of square brackets in an expression: an array or a repeat. -/
def bracketBody : Nat → TreeParser ExprForm
  | 0 => tooDeep
  | n + 1 => do
    if ← atEnd then return .array
    discard <| expr n true
    let ts ← rest
    if ts.isEmpty || startsPunct "," ts then
      commaRest n
      return .array
    if startsPunct ";" ts then
      drop 1
      discard <| expr n true
      return .repeatArray
    fail "expected `,` or `;`"

end

end Grammar

end ODataBuilder
