import ODataBuilder.Client.Config
import ODataBuilder.Query.Builder
/-!
# Requests

A terminal call encodes its body, builds the query, resolves the path against the service root
and hands one request to the client's transport; the first failure is the answer. A transport
runs in a monad of its own.
-/
namespace ODataBuilder

structure Request where
  method : String
  path : String
  query : String
  body : Option Json
  deriving Repr

namespace Request

/-- The path and the query as sent: joined by `?` unless the query is empty. -/
def url (r : Request) : String :=
  if r.query.isEmpty then r.path else r.path ++ "?" ++ r.query

end Request

/-- A body to send: a JSON document, or a map keyed by byte strings, which JSON cannot hold. -/
inductive Payload where
  | document (value : Json)
  | keyedByBytes
  deriving Repr

namespace Payload

def encode : Payload → Except String Json
  | .document value => .ok value
  | .keyedByBytes => .error "key must be a string"

end Payload

/-- A transport: it hands a request on and answers it, or fails with an error of its own, as
an effect of the monad `m` it runs in. -/
structure Transport (m : Type → Type) (ε ρ : Type) where
  send : Request → m (Except ε ρ)

inductive RequestError (ε : Type) where
  | query (cause : QueryError)
  | config (cause : ConfigError)
  | body (reason : String)
  | transport (reason : ε)
  deriving Repr

namespace RequestError

def message {ε : Type} [ToString ε] : RequestError ε → String
  | .query cause => cause.message
  | .config cause => cause.message
  | .body reason => "request body could not be serialized: " ++ reason
  | .transport reason => "transport failed: " ++ toString reason

end RequestError

/-- A transport that answers a request with itself, or fails with the message it holds. -/
structure EchoTransport where
  failure : Option String := none
  deriving Repr

namespace EchoTransport

def send (t : EchoTransport) (r : Request) : Except String Request :=
  match t.failure with
  | some reason => .error reason
  | none => .ok r

def fails (t : EchoTransport) : Bool := t.failure.isSome

def transport (t : EchoTransport) : Transport Id String Request := ⟨fun r => pure (t.send r)⟩

end EchoTransport

structure Client (m : Type → Type) (ε ρ : Type) where
  config : ClientConfig
  transport : Transport m ε ρ

namespace QueryBuilder

variable {m : Type → Type} [Monad m] {ε ρ : Type}

/-- Sends the built query to a path with a method and an optional body: the query is built and
the path resolved before the transport is called, and either failure stops the call. -/
def sendTo (b : QueryBuilder) (client : Client m ε ρ) (method path : String) (body : Option Json) :
    m (Except (RequestError ε) ρ) :=
  match b.buildWith client.config.lambdaVariable with
  | .error cause => pure (.error (.query cause))
  | .ok query =>
    match client.config.resolvePath path with
    | .error cause => pure (.error (.config cause))
    | .ok path => do
      let answer ← client.transport.send ⟨method, path, query.queryString, body⟩
      pure (answer.mapError .transport)

/-- Sends to the entity set with a method that takes a body, once the body is encoded. -/
def sendWith (b : QueryBuilder) (client : Client m ε ρ) (method entitySet : String)
    (payload : Payload) : m (Except (RequestError ε) ρ) :=
  match payload.encode with
  | .error reason => pure (.error (.body reason))
  | .ok body => b.sendTo client method entitySet (some body)

def get (b : QueryBuilder) (client : Client m ε ρ) (entitySet : String) :
    m (Except (RequestError ε) ρ) :=
  b.sendTo client "GET" entitySet none

def delete (b : QueryBuilder) (client : Client m ε ρ) (entitySet : String) :
    m (Except (RequestError ε) ρ) :=
  b.sendTo client "DELETE" entitySet none

def post (b : QueryBuilder) (client : Client m ε ρ) (entitySet : String) (payload : Payload) :
    m (Except (RequestError ε) ρ) :=
  b.sendWith client "POST" entitySet payload

def put (b : QueryBuilder) (client : Client m ε ρ) (entitySet : String) (payload : Payload) :
    m (Except (RequestError ε) ρ) :=
  b.sendWith client "PUT" entitySet payload

def patch (b : QueryBuilder) (client : Client m ε ρ) (entitySet : String) (payload : Payload) :
    m (Except (RequestError ε) ρ) :=
  b.sendWith client "PATCH" entitySet payload

end QueryBuilder

end ODataBuilder
