import ODataBuilder.Url.Parser
import ODataBuilder.Json.Value
import ODataBuilder.Json.Reader
import ODataBuilder.Text.Alphabetic
import ODataBuilder.Text.Numeric
/-!
# Client configuration

An optional service root that resource paths are resolved against, and the lambda variable
prefix (`x` unless set), which must be an identifier.
-/
namespace ODataBuilder

inductive ConfigError where
  | parse (cause : Json.ReadError)
  | join (path : String) (cause : UrlError)
  | lambdaVariable (value : String)
  deriving Repr

namespace ConfigError

def message : ConfigError → String
  | .parse cause => "invalid client config: " ++ cause.text
  | .join path cause => "cannot join path '" ++ path ++ "' onto service root: " ++ cause.message
  | .lambdaVariable value => "lambda variable '" ++ value ++ "' is not an identifier"

def kindName : ConfigError → String
  | .parse _ => "Parse"
  | .join _ _ => "Join"
  | .lambdaVariable _ => "LambdaVariable"

end ConfigError

/-- Whether a text is an identifier: a letter or `_`, then letters, digits or `_`. -/
def isIdentifier (s : String) : Bool :=
  match s.toList with
  | [] => false
  | first :: rest =>
    (Unicode.isAlphabetic first || first == '_') &&
      rest.all fun c => Unicode.isAlphabetic c || Unicode.isNumeric c || c == '_'

structure ClientConfig where
  serviceRoot : Option Url := none
  lambdaVariable : String := "x"
  deriving Repr

namespace ClientConfig

def withRoot (root : Url) : ClientConfig := { serviceRoot := some root }

def withLambdaVariable (c : ClientConfig) (name : String) : Except ConfigError ClientConfig :=
  if isIdentifier name then .ok { c with lambdaVariable := name }
  else .error (.lambdaVariable name)

/-- A resource path resolved against the service root, or as given without one. -/
def resolvePath (c : ClientConfig) (path : String) : Except ConfigError String :=
  match c.serviceRoot with
  | none => .ok path
  | some root =>
    match root.join path with
    | .ok url => .ok url.text
    | .error cause => .error (.join path cause)

def rootText? (c : ClientConfig) : Option String := c.serviceRoot.map Url.text

def toJson (c : ClientConfig) : Json :=
  .object ((match c.rootText? with
    | some root => [("service_root", Json.string root)]
    | none => []) ++ [("lambda_variable", Json.string c.lambdaVariable)])

end ClientConfig

end ODataBuilder
