import ODataBuilder.Json.Reader
import ODataBuilder.Number.Compact
import ODataBuilder.Text.Escaped
/-!
# Reading a document into a fixed shape

Pieces for readers that deserialise while they read: a value of the wrong kind is reported as
`invalid type: <found>, expected <what>` just past the token that was found.
-/
namespace ODataBuilder.Json

inductive Unexpected where
  | null
  | bool (value : Bool)
  | integer (text : String)
  | float (value : BinaryFloat)
  | string (value : String)
  | sequence
  | map
  deriving Repr

namespace Unexpected

def text : Unexpected → String
  | .null => "null"
  | .bool b => "boolean `" ++ (if b then "true" else "false") ++ "`"
  | .integer t => "integer `" ++ t ++ "`"
  | .float x => "floating point `" ++ BinaryFloat.compactText BinaryFormat.double x ++ "`"
  | .string s => "string " ++ Escaped.quote s
  | .sequence => "sequence"
  | .map => "map"

def ofNumber : NumberValue → Unexpected
  | .unsigned n => .integer (toString n)
  | .signed n => .integer (toString n)
  | .float x => .float x

end Unexpected

def invalidType (found : Unexpected) (expected : String) : String :=
  "invalid type: " ++ found.text ++ ", expected " ++ expected

/-- The message for a value of the right kind that is not acceptable. -/
def invalidValue (found : Unexpected) (expected : String) : String :=
  "invalid value: " ++ found.text ++ ", expected " ++ expected

namespace Cursor

/-- The error for the value starting here, which is not what was `expected`: the token is
read and the error placed past it. -/
def mismatch (c : Cursor) (expected : String) : ReadError :=
  let found : Except ReadError (Unexpected × Cursor) :=
    match c.peek with
    | some 'n' => (readWordTail ['u', 'l', 'l'] c.advance).map fun c => (.null, c)
    | some 't' => (readWordTail ['r', 'u', 'e'] c.advance).map fun c => (.bool true, c)
    | some 'f' => (readWordTail ['a', 'l', 's', 'e'] c.advance).map fun c => (.bool false, c)
    | some '-' => (readNumber c.advance true).map fun (n, c) => (Unexpected.ofNumber n.value, c)
    | some '"' => (readString c.advance).map fun (s, c) => (.string s, c)
    | some '[' => .ok (.sequence, c)
    | some '\x7b' => .ok (.map, c)
    | some ch =>
      if ch.isDigit then (readNumber c false).map fun (n, c) => (Unexpected.ofNumber n.value, c)
      else .error (ReadError.ofCode .expectedSomeValue c.peekPosition)
    | none => .error (ReadError.ofCode .expectedSomeValue c.peekPosition)
  match found with
  | .ok (u, c) => ⟨invalidType u expected, some c.position⟩
  | .error e => e

def readText (c : Cursor) (expected : String) : Step String :=
  let c := c.skipBlank
  match c.peek with
  | none => c.failAhead .eofWhileParsingValue
  | some '"' => readString c.advance
  | some _ => .error (c.mismatch expected)

def readNull? (c : Cursor) : Except ReadError (Option Cursor) :=
  let c := c.skipBlank
  match c.peek with
  | some 'n' => (readWordTail ['u', 'l', 'l'] c.advance).map some
  | _ => .ok none

/-- Looks for the next key of an object: `none` at its end; `first` says no key came yet. -/
def nextKey (c : Cursor) (first : Bool) : Except ReadError (Option Cursor) :=
  let c := c.skipBlank
  match c.peek with
  | none => c.failAhead .eofWhileParsingObject
  | some '\x7d' => .ok none
  | some '"' => if first then .ok (some c) else c.failAhead .expectedObjectCommaOrEnd
  | some ',' =>
    if first then c.failAhead .keyMustBeAString
    else
      let c := c.advance.skipBlank
      match c.peek with
      | some '"' => .ok (some c)
      | some '\x7d' => c.failAhead .trailingComma
      | some _ => c.failAhead .keyMustBeAString
      | none => c.failAhead .eofWhileParsingValue
  | some _ => if first then c.failAhead .keyMustBeAString else c.failAhead .expectedObjectCommaOrEnd

def readColon (c : Cursor) : Except ReadError Cursor :=
  let c := c.skipBlank
  match c.peek with
  | some ':' => .ok c.advance
  | some _ => c.failAhead .expectedColon
  | none => c.failAhead .eofWhileParsingObject

/-- Looks for the closing brace of an object: the cursor past it, and what is wrong if it
is not there. -/
def closeObject (c : Cursor) : Cursor × Option ReadError :=
  let c := c.skipBlank
  match c.peek with
  | some '\x7d' => (c.advance, none)
  | some ',' => (c, some (ReadError.ofCode .trailingComma c.peekPosition))
  | some _ => (c, some (ReadError.ofCode .trailingCharacters c.peekPosition))
  | none => (c, some (ReadError.ofCode .eofWhileParsingObject c.peekPosition))

/-- Looks for the next item of an array: `none` at its end; `first` says no item came yet. -/
def nextItem (c : Cursor) (first : Bool) : Except ReadError (Option Cursor) :=
  let c := c.skipBlank
  match c.peek with
  | none => c.failAhead .eofWhileParsingList
  | some ']' => .ok none
  | some ',' =>
    if first then .ok (some c)
    else
      let c := c.advance.skipBlank
      match c.peek with
      | some ']' => c.failAhead .trailingComma
      | some _ => .ok (some c)
      | none => c.failAhead .eofWhileParsingValue
  | some _ => if first then .ok (some c) else c.failAhead .expectedListCommaOrEnd

/-- Looks for the closing bracket of an array: the cursor past what was looked at, and what
is wrong if the bracket is not there. -/
def closeArray (c : Cursor) : Cursor × Option ReadError :=
  let c := c.skipBlank
  match c.peek with
  | some ']' => (c.advance, none)
  | some ',' =>
    let c := c.advance.skipBlank
    match c.peek with
    | some ']' => (c, some (ReadError.ofCode .trailingComma c.peekPosition))
    | _ => (c, some (ReadError.ofCode .trailingCharacters c.peekPosition))
  | some _ => (c, some (ReadError.ofCode .trailingCharacters c.peekPosition))
  | none => (c, some (ReadError.ofCode .eofWhileParsingList c.peekPosition))

def finish (c : Cursor) : Except ReadError Unit :=
  let c := c.skipBlank
  match c.peek with
  | none => .ok ()
  | some _ => c.failAhead .trailingCharacters

end Cursor

end ODataBuilder.Json
