import ODataBuilder.Client.Config
import ODataBuilder.Json.Decode
/-!
# Reading a configuration from JSON

An object with the optional members `service_root` and `lambda_variable`, each at most once,
or an array of the two in that order. A fault found after a member's value was read is placed
where the reader stands once it has looked for the closing bracket.
-/
namespace ODataBuilder.ClientConfig

open Json

def rootExpected : String := "a string representing an URL"

def variableExpected : String := "a string"

def documentExpected : String := "struct ClientConfig"

def memberNames : String := "`service_root` or `lambda_variable`"

/-- A reading step whose failure keeps the cursor where it happened, so that a failure
without a position can be placed later. -/
abbrev Attempt (α : Type) := Except (ReadError × Cursor) (α × Cursor)

def attempt {α : Type} (c : Cursor) (step : Step α) : Attempt α :=
  match step with
  | .ok result => .ok result
  | .error e => .error (e, c)

def readRoot (c : Cursor) : Step (Option Url) :=
  match c.readNull? with
  | .error e => .error e
  | .ok (some c) => .ok (none, c)
  | .ok none =>
    match c.readText rootExpected with
    | .error e => .error e
    | .ok (s, c) =>
      match Url.parse s with
      | .ok url => .ok (some url, c)
      | .error cause => .error ⟨cause.message ++ ": " ++ Escaped.quote s, some c.position⟩

def readVariable (c : Cursor) : Attempt String :=
  match c.readText variableExpected with
  | .error e => .error (e, c)
  | .ok (s, c) =>
    if isIdentifier s then .ok (s, c)
    else .error (ReadError.custom (ConfigError.lambdaVariable s).message, c)

structure Members where
  root : Option (Option Url) := none
  lambda : Option String := none

def Members.config (m : Members) : ClientConfig :=
  { serviceRoot := m.root.getD none, lambdaVariable := m.lambda.getD "x" }

def readMember (m : Members) (key : String) (c : Cursor) : Attempt Members :=
  if key = "service_root" then
    if m.root.isSome then .error (ReadError.custom "duplicate field `service_root`", c)
    else
      match c.readColon with
      | .error e => .error (e, c)
      | .ok c => (attempt c (readRoot c)).map fun (r, c) => ({ m with root := some r }, c)
  else if key = "lambda_variable" then
    if m.lambda.isSome then .error (ReadError.custom "duplicate field `lambda_variable`", c)
    else
      match c.readColon with
      | .error e => .error (e, c)
      | .ok c => (readVariable c).map fun (v, c) => ({ m with lambda := some v }, c)
  else .error (ReadError.custom ("unknown field `" ++ key ++ "`, expected " ++ memberNames), c)

def readMembers : Nat → Cursor → Bool → Members → Attempt Members
  | 0, c, _, _ => .error (ReadError.ofCode .eofWhileParsingObject c.position, c)
  | fuel + 1, c, first, m =>
    match c.nextKey first with
    | .error e => .error (e, c)
    | .ok none => .ok (m, c)
    | .ok (some c) =>
      match readString c.advance with
      | .error e => .error (e, c)
      | .ok (key, c) =>
        match readMember m key c with
        | .error failure => .error failure
        | .ok (m, c) => readMembers fuel c false m

def readItems (c : Cursor) : Attempt Members :=
  match c.nextItem true with
  | .error e => .error (e, c)
  | .ok none => .ok ({}, c)
  | .ok (some c) =>
    match readRoot c with
    | .error e => .error (e, c)
    | .ok (root, c) =>
      match c.nextItem false with
      | .error e => .error (e, c)
      | .ok none => .ok ({ root := some root }, c)
      | .ok (some c) =>
        (readVariable c).map fun (v, c) => ({ root := some root, lambda := some v }, c)

/-- Ends an object or array read by `body`, placing a failure that has no position where the
closing bracket was looked for. -/
def closed (close : Cursor → Cursor × Option ReadError) (result : Attempt Members) :
    Except ReadError (Members × Cursor) :=
  match result with
  | .ok (m, c) =>
    match close c with
    | (c, none) => .ok (m, c)
    | (_, some e) => .error e
  | .error (e, c) => .error (e.placeAt (close c).1.position)

def ofJson (text : String) : Except ConfigError ClientConfig :=
  let c := (Cursor.start text).skipBlank
  let read : Except ReadError (Members × Cursor) :=
    match c.peek with
    | none => c.failAhead .eofWhileParsingValue
    | some '\x7b' => closed Cursor.closeObject (readMembers c.fuel c.advance true {})
    | some '[' => closed Cursor.closeArray (readItems c.advance)
    | some _ => .error (c.mismatch documentExpected)
  match read with
  | .error e => .error (.parse e)
  | .ok (m, c) =>
    match c.finish with
    | .error e => .error (.parse e)
    | .ok () => .ok m.config

end ODataBuilder.ClientConfig
