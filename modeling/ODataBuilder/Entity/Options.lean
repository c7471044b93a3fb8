import ODataBuilder.Decl.Item
import ODataBuilder.Text.Similarity
/-!
# Entity options

The `#[odata(…)]` options: `entity_set` and `rename_all` on the declaration, `rename`, `skip`
and `nested` on a field. Reading collects every fault, and an unknown name is reported with
the most similar allowed one.
-/
namespace ODataBuilder

inductive OptionError where
  | unknownField (name : String) (allowed : List String)
  | duplicateField (name : String)
  | unexpectedFormat (format : String)
  | unexpectedType (kind : String)
  | unknownValue (value : String)
  | syntaxError (message : String)
  | nameValueAttribute (path : String)
  | wordAttribute (path : String)
  | unsupportedShape (shape : String) (expected : String)
  deriving Repr, DecidableEq

namespace OptionError

/-- The allowed names listed after an unknown one: the closest, or all in order. -/
def alternatives (name : String) (allowed : List String) : String :=
  match Similarity.closest name allowed with
  | some near => ". Did you mean `" ++ near ++ "`?"
  | none =>
    if allowed.isEmpty || allowed.length ≥ 10 then ""
    else ". Available values: " ++ ", ".intercalate (allowed.map fun a => "`" ++ a ++ "`")

def message : OptionError → String
  | .unknownField name allowed => "Unknown field: `" ++ name ++ "`" ++ alternatives name allowed
  | .duplicateField name => "Duplicate field `" ++ name ++ "`"
  | .unexpectedFormat format => "Unexpected meta-item format `" ++ format ++ "`"
  | .unexpectedType kind => "Unexpected type `" ++ kind ++ "`"
  | .unknownValue value => "Unknown value: `" ++ value ++ "`"
  | .syntaxError m => m
  | .nameValueAttribute path =>
    "Name-value arguments are not supported. Use #[" ++ path ++ "(...)]"
  | .wordAttribute path => "Word attributes are not supported. Use #[" ++ path ++ "(...)]"
  | .unsupportedShape shape expected =>
    "Unsupported shape `" ++ shape ++ "`. Expected " ++ expected ++ "."

end OptionError

def LitKind.label : LitKind → String
  | .str => "string"
  | .byteStr => "byte string"
  | .cStr => "unknown"
  | .byte => "byte"
  | .char => "char"
  | .int => "int"
  | .float => "float"
  | .bool => "bool"
  | .verbatim => "verbatim"

def ExprForm.label : ExprForm → String
  | .array => "array"
  | .assign => "assign"
  | .asyncBlock => "async"
  | .awaitExpr => "await"
  | .binary _ => "binary"
  | .block => "block"
  | .breakExpr => "break"
  | .call => "call"
  | .cast => "cast"
  | .closure => "closure"
  | .constBlock => "const"
  | .continueExpr => "continue"
  | .field => "field"
  | .forLoop => "for_loop"
  | .ifExpr => "if"
  | .index => "index"
  | .infer => "infer"
  | .letExpr => "let"
  | .lit _ _ => "lit"
  | .loopExpr => "loop"
  | .macroCall => "macro"
  | .matchExpr => "match"
  | .methodCall => "method_call"
  | .paren => "paren"
  | .path => "path"
  | .range => "range"
  | .rawAddress => "unknown"
  | .reference => "reference"
  | .repeatArray => "repeat"
  | .returnExpr => "return"
  | .structLit => "struct"
  | .tryBlock => "try_block"
  | .tryOp => "try"
  | .tuple => "tuple"
  | .unary => "unary"
  | .unsafeBlock => "unsafe"
  | .verbatim => "verbatim"
  | .whileExpr => "while"
  | .yieldExpr => "yield"

inductive OptionKind where
  | text
  | flag
  deriving Repr, DecidableEq

inductive OptionValue where
  | text (value : String)
  | flag (value : Bool)
  deriving Repr, DecidableEq

inductive ListItem where
  | literal
  | item (m : MetaItem)
  deriving Repr, Inhabited

namespace Grammar

open TreeParser

def listItem (n : Nat) : TreeParser ListItem := do
  let ts ← rest
  if startsLit ts && !(startsBool ts && startsPunct "=" (skipN 1 ts)) then
    discard <| lit
    return .literal
  if startsAnyIdent ts || (startsPunct "::" ts && startsAnyIdent (skipN 2 ts)) then
    return .item (← metaItem n)
  fail "expected identifier or literal"

def listItems : Nat → TreeParser (List ListItem)
  | 0 => tooDeep
  | n + 1 => do
    if ← atEnd then return []
    let first ← listItem n
    if ← atEnd then return [first]
    punct ","
    let more ← listItems n
    return first :: more

end Grammar

namespace ListItem

def parseAll (body : List TokenTree) : Except String (List ListItem) :=
  TreeParser.runAll (Grammar.listItems (Grammar.depthFor (TokenTree.listWeight body))) body

end ListItem

namespace OptionValue

def textOfLit (kind : LitKind) (text : String) : Except OptionError OptionValue :=
  match kind with
  | .str => .ok (.text (Literal.stringValue text))
  | k => .error (.unexpectedType k.label)

def flagOfLit (kind : LitKind) (text : String) : Except OptionError OptionValue :=
  match kind with
  | .bool => .ok (.flag (text == "true"))
  | .str =>
    match Literal.stringValue text with
    | "true" => .ok (.flag true)
    | "false" => .ok (.flag false)
    | other => .error (.unknownValue other)
  | k => .error (.unexpectedType k.label)

def ofItem (kind : OptionKind) : MetaItem → Except OptionError OptionValue
  | .word _ =>
    match kind with
    | .text => .error (.unexpectedFormat "word")
    | .flag => .ok (.flag true)
  | .list _ body =>
    match ListItem.parseAll body with
    | .error m => .error (.syntaxError m)
    | .ok _ => .error (.unexpectedFormat "list")
  | .nameValue _ (.lit k t) =>
    match kind with
    | .text => textOfLit k t
    | .flag => flagOfLit k t
  | .nameValue _ (.expr form) => .error (.unexpectedType form.label)

end OptionValue

/-- Options read so far: each name seen with its value (none when it did not read), and the
faults in order. -/
structure OptionState where
  seen : List (String × Option OptionValue) := []
  faults : List OptionError := []
  deriving Repr, Inhabited

namespace OptionState

def fault (s : OptionState) (e : OptionError) : OptionState :=
  { s with faults := s.faults ++ [e] }

def readItem (allowed : List (String × OptionKind)) (s : OptionState) : ListItem → OptionState
  | .literal => s.fault (.unexpectedFormat "literal")
  | .item m =>
    let name := m.path.name
    match allowed.lookup name with
    | none =>
      s.fault (.unknownField name ((allowed.map (·.1)).mergeSort fun a b => decide (a ≤ b)))
    | some kind =>
      if (s.seen.lookup name).isSome then s.fault (.duplicateField name)
      else
        match OptionValue.ofItem kind m with
        | .ok v => { s with seen := s.seen ++ [(name, some v)] }
        | .error e => { s with seen := s.seen ++ [(name, none)], faults := s.faults ++ [e] }

def readAttribute (allowed : List (String × OptionKind)) (s : OptionState) :
    MetaItem → OptionState
  | .word p => if p.isExactly "odata" then s.fault (.wordAttribute "odata") else s
  | .nameValue p _ => if p.isExactly "odata" then s.fault (.nameValueAttribute "odata") else s
  | .list p body =>
    if !p.isExactly "odata" || body.isEmpty then s
    else
      match ListItem.parseAll body with
      | .error m => s.fault (.syntaxError m)
      | .ok items => items.foldl (readItem allowed) s

def read (allowed : List (String × OptionKind)) (attrs : List MetaItem) : OptionState :=
  attrs.foldl (readAttribute allowed) {}

def text? (s : OptionState) (name : String) : Option String :=
  match s.seen.lookup name with
  | some (some (.text v)) => some v
  | _ => none

def flag (s : OptionState) (name : String) : Bool :=
  match s.seen.lookup name with
  | some (some (.flag v)) => v
  | _ => false

end OptionState

structure EntityOptions where
  entitySet : Option String
  renameAll : Option String
  deriving Repr, DecidableEq

structure FieldOptions where
  rename : Option String
  skip : Bool
  nested : Bool
  deriving Repr, DecidableEq

namespace EntityOptions

def allowed : List (String × OptionKind) := [("entity_set", .text), ("rename_all", .text)]

def read (attrs : List MetaItem) : EntityOptions × List OptionError :=
  let s := OptionState.read allowed attrs
  (⟨s.text? "entity_set", s.text? "rename_all"⟩, s.faults)

end EntityOptions

namespace FieldOptions

def allowed : List (String × OptionKind) := [("rename", .text), ("skip", .flag), ("nested", .flag)]

def read (attrs : List MetaItem) : FieldOptions × List OptionError :=
  let s := OptionState.read allowed attrs
  (⟨s.text? "rename", s.flag "skip", s.flag "nested"⟩, s.faults)

end FieldOptions

end ODataBuilder
