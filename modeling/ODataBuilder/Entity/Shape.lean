import ODataBuilder.Path.Basic
import ODataBuilder.Entity.CaseRule
/-!
# Entity shapes

A field set stands at a path and offers one accessor per field, which hands back a field, a
nested field set or a collection one hop further, or the field set's own path.
`EntityShape.followFrom` applies a chain of accessors through a catalog of entities.
-/
namespace ODataBuilder

inductive AccessorKind where
  | leaf
  | nested (entity : String)
  | collection (entity : String)
  | own
  deriving Repr, DecidableEq

/-- One accessor of a field set: its name, the hop it adds, and what it hands back. -/
structure Accessor where
  name : String
  hop : String
  kind : AccessorKind
  deriving Repr, DecidableEq

/-- An entity: its name, the name of its entity set, and its field set's accessors. -/
structure EntityShape where
  name : String
  entitySet : String
  accessors : List Accessor
  deriving Repr

/-- What following accessors hands back: a field set, a field, a collection or a path. -/
inductive PathToken where
  | fields (entity : String) (path : FieldPath)
  | field (path : FieldPath)
  | collection (entity : String) (path : FieldPath)
  | bare (path : FieldPath)
  deriving Repr, DecidableEq

namespace PathToken

def path : PathToken → FieldPath
  | .fields _ p => p
  | .field p => p
  | .collection _ p => p
  | .bare p => p

def isCollection : PathToken → Bool
  | .collection _ _ => true
  | _ => false

end PathToken

inductive ChainError where
  | unknownEntity (name : String)
  | noAccessor (name : String)
  deriving Repr, DecidableEq

namespace ChainError

def message : ChainError → String
  | .unknownEntity name => "unknown entity " ++ name
  | .noAccessor name => "no accessor " ++ name

end ChainError

namespace Accessor

/-- What the accessor hands back when called on a field set at `path`. -/
def apply (a : Accessor) (path : FieldPath) : PathToken :=
  match a.kind with
  | .leaf => .field (path.child a.hop)
  | .nested entity => .fields entity (path.child a.hop)
  | .collection entity => .collection entity (path.child a.hop)
  | .own => .bare path

/-- An accessor as derived from a field: the hop is the rename if given, else the rule
applied to the identifier (without a raw `r#` prefix), else that identifier. -/
def derived (rule : Option CaseRule) (ident : String) (rename : Option String)
    (kind : AccessorKind) : Accessor :=
  let bare := if ident.startsWith "r#" then String.ofList (ident.toList.drop 2) else ident
  let hop := match rename, rule with
    | some name, _ => name
    | none, some r => r.apply bare
    | none, none => bare
  ⟨ident, hop, kind⟩

end Accessor

namespace EntityShape

def accessor? (e : EntityShape) (name : String) : Option Accessor :=
  e.accessors.find? (·.name == name)

def followFrom (catalog : List EntityShape) : PathToken → List String → Except ChainError PathToken
  | token, [] => .ok token
  | .fields entity path, name :: rest =>
    match catalog.find? (·.name == entity) with
    | none => .error (.unknownEntity entity)
    | some shape =>
      match shape.accessor? name with
      | none => .error (.noAccessor name)
      | some a => followFrom catalog (a.apply path) rest
  | _, name :: _ => .error (.noAccessor name)

/-- Follows a chain of accessors from the root of the entity called `entity`. -/
def follow (catalog : List EntityShape) (entity : String) (chain : List String) :
    Except ChainError (EntityShape × PathToken) :=
  match catalog.find? (·.name == entity) with
  | none => .error (.unknownEntity entity)
  | some shape =>
    match followFrom catalog (.fields entity FieldPath.root) chain with
    | .ok token => .ok (shape, token)
    | .error e => .error e

end EntityShape

end ODataBuilder
