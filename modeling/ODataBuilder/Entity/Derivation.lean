import ODataBuilder.Entity.Options
import ODataBuilder.Entity.Shape
/-!
# Deriving an entity from its declaration

`Derivation.ofSource` reads a struct declaration and derives its field set's name, its entity
set and one accessor per field not skipped, stopping at the first step that finds faults: the
token trees, the declaration, its options, then `expand` and the names of the items derived.
-/
namespace ODataBuilder

namespace TypeSyntax

def isNamed (name : String) : TypeSyntax → Bool
  | .path last _ _ => last == name
  | .other _ => false

def firstArg? : TypeSyntax → Option TypeSyntax
  | .path _ (a :: _) _ => some a
  | _ => none

def unwrapped : TypeSyntax → TypeSyntax
  | .path last (a :: rest) text =>
    if last == "Option" || last == "Box" then unwrapped a else .path last (a :: rest) text
  | ty => ty

end TypeSyntax

def unraw (name : String) : String :=
  if name.startsWith "r#" then String.ofList (name.toList.drop 2) else name

inductive DeriveFailure where
  | unreadable
  /-- the derived items do not read back as items, for the reason given -/
  | unreadableItems (message : String)
  | faults (messages : List String)
  deriving Repr, DecidableEq

namespace DeriveFailure

def unreadableMessage : String := "cannot parse string into token stream"

/-- The text of derived items that do not read back, with the reason. -/
def itemsMessage (reason : String) : String := "unparseable expansion: " ++ reason

/-- Why an accessor named `_` does not read back: a method needs a name, and `_` is a
keyword. -/
def placeholderReason : String := "expected identifier, found keyword `_`"

end DeriveFailure

/-- A struct as the expansion sees it once its options have read: its name as written, its
visibility, the number of its generic parameters, its options, and its named fields with theirs,
in order. -/
structure EntityInput where
  ident : String
  vis : String
  params : Nat
  options : EntityOptions
  fields : List (FieldDecl × FieldOptions)
  deriving Repr

structure Derivation where
  ident : String
  fieldsName : String
  vis : String
  entitySet : String
  accessors : List Accessor
  deriving Repr

namespace Derivation

def fieldsDoc (d : Derivation) : String := "Typed field paths of [`" ++ d.ident ++ "`]."

def fieldPathType : String := "::odata_query::path::FieldPath"

def traitImpls (d : Derivation) : List (String × String) :=
  [("Entity", d.ident), ("PathRef", d.fieldsName), ("PathList", d.fieldsName),
    ("FieldSet", d.fieldsName)]

def accessorDoc (a : Accessor) : String := "Path to `" ++ a.hop ++ "`."

def kindOf (options : FieldOptions) (ty : TypeSyntax) : Except String AccessorKind :=
  if !options.nested then .ok .leaf
  else
    let inner := ty.unwrapped
    if !inner.isNamed "Vec" then .ok (.nested (Blank.strip inner.text))
    else
      match inner.firstArg? with
      | some element => .ok (.collection (Blank.strip element.unwrapped.text))
      | none => .error "nested collection must name its element type"

/-- The accessors of the fields that are not skipped, or the first fault. -/
def accessorsOf (rule : Option CaseRule) :
    List (FieldDecl × FieldOptions) → Except String (List Accessor)
  | [] => .ok []
  | (field, options) :: rest =>
    if options.skip then accessorsOf rule rest
    else
      match kindOf options field.type with
      | .error e => .error e
      | .ok kind =>
        match accessorsOf rule rest with
        | .error e => .error e
        | .ok more => .ok (Accessor.derived rule field.ident options.rename kind :: more)

def ruleOf : Option String → Except String (Option CaseRule)
  | none => .ok none
  | some name =>
    match CaseRule.ofName? name with
    | some r => .ok (some r)
    | none => .error ("unsupported rename_all '" ++ name ++
        "', expected PascalCase, camelCase or snake_case")

/-- Expands a struct whose options have read: the first fault of steps 4, or the derivation. -/
def expand (input : EntityInput) : Except String Derivation := do
  if input.params > 0 then throw "Entity cannot be derived for generic structs"
  let rule ← ruleOf input.options.renameAll
  let accessors ← accessorsOf rule input.fields
  let bare := unraw input.ident
  return {
    ident := input.ident
    fieldsName := bare ++ "Fields"
    vis := Blank.strip input.vis
    entitySet := input.options.entitySet.getD bare
    accessors := accessors }

def ofDecl (decl : ItemDecl) : Except DeriveFailure Derivation := do
  let (options, faults) := EntityOptions.read decl.attrs
  let shapeFault : Option OptionError := match decl.body with
    | .structBody (.named _) => none
    | .structBody (.unnamed 1) => some (.unsupportedShape "one unnamed field" "named fields")
    | .structBody (.unnamed _) => some (.unsupportedShape "unnamed fields" "named fields")
    | .structBody .unit => some (.unsupportedShape "no fields" "named fields")
    | .enumBody => some (.unsupportedShape "enum" "struct with named fields")
    | .unionBody => some (.unsupportedShape "union" "struct with named fields")
  let fields := match decl.body with
    | .structBody (.named fs) => fs
    | _ => []
  let read := fields.map fun f => (f, FieldOptions.read f.attrs)
  let fieldFaults := read.flatMap fun (_, _, fs) => fs
  let faults := faults ++ match shapeFault with
    | some fault => [fault]
    | none => fieldFaults
  if !faults.isEmpty then throw (.faults (faults.map OptionError.message))
  let input : EntityInput :=
    ⟨decl.ident, decl.vis, decl.params, options, read.map fun (f, o, _) => (f, o)⟩
  let derivation ← match expand input with
    | .ok d => pure d
    | .error e => throw (.faults [e])
  if derivation.accessors.any (·.name == "_") then
    throw (.unreadableItems DeriveFailure.placeholderReason)
  return derivation

def ofSource (source : String) : Except DeriveFailure Derivation :=
  match Scan.trees source with
  | none => .error .unreadable
  | some trees =>
    match ItemDecl.parse trees with
    | .error m => .error (.faults [m])
    | .ok decl => ofDecl decl

end Derivation

end ODataBuilder
