import ODataBuilder.Url.Host
/-!
# URLs

A scheme, credentials, host and port, a path kept as written, and a query and fragment. Six
schemes are special, and a default port is never written.
-/
namespace ODataBuilder

structure Url where
  scheme : String
  username : String := ""
  password : String := ""
  /-- the host when the URL has an authority; `some .empty` is an authority without host -/
  host : Option Host := none
  port : Option Nat := none
  path : String := ""
  query : Option String := none
  fragment : Option String := none
  deriving Repr, DecidableEq

namespace Url

def isSpecialScheme (scheme : String) : Bool :=
  ["http", "https", "ws", "wss", "ftp", "file"].contains scheme

def defaultPort? : String → Option Nat
  | "http" => some 80
  | "https" => some 443
  | "ws" => some 80
  | "wss" => some 443
  | "ftp" => some 21
  | _ => none

def isSpecial (u : Url) : Bool := isSpecialScheme u.scheme

/-- Whether the URL cannot be a base: it has no authority and its path does not start with
`/`. -/
def cannotBeABase (u : Url) : Bool := u.host.isNone && !u.path.startsWith "/"

def hostText? (u : Url) : Option String :=
  match u.host with
  | some .empty | none => none
  | some h => some h.text

/-- The first segment of the path: what stands between its leading `/` and the next. -/
def firstSegment (u : Url) : List Char :=
  (u.path.toList.drop 1).takeWhile (· != '/')

def credentials (u : Url) : String :=
  if u.username.isEmpty && u.password.isEmpty then ""
  else u.username ++ (if u.password.isEmpty then "" else ":" ++ u.password) ++ "@"

def authorityText (u : Url) : String :=
  match u.host with
  | some host =>
    "//" ++ u.credentials ++ host.text ++
      (match u.port with
       | some p => ":" ++ toString p
       | none => "")
  | none => ""

def text (u : Url) : String :=
  u.scheme ++ ":" ++ u.authorityText ++ u.path ++
    (match u.query with
     | some q => "?" ++ q
     | none => "") ++
    (match u.fragment with
     | some f => "#" ++ f
     | none => "")

end Url

end ODataBuilder
