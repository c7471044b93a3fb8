import ODataBuilder.Proofs.BuilderSession
import ODataBuilder.Client.Request

/-! What a terminal call sends, observed through a transport that logs every request it is handed
(`Transport.logging`). A call sends at most once, exactly when its body encodes and its path
resolves, and only a transport failure comes after the request is logged. -/
namespace ODataBuilder

namespace Transport

/-- A transport that keeps every request it is handed, in order, and answers it by `answer`. -/
def logging {ε ρ : Type} (answer : Request → Except ε ρ) :
    Transport (StateM (List Request)) ε ρ :=
  ⟨fun r => modifyGet fun log => (answer r, log ++ [r])⟩

@[simp] theorem logging_send_run {ε ρ : Type} (answer : Request → Except ε ρ) (r : Request)
    (log : List Request) : (((logging answer).send r).run log).run = (answer r, log ++ [r]) :=
  rfl

end Transport

/-- A terminal call of a builder, with what it takes besides the builder and the client. -/
inductive TerminalCall where
  | get
  | delete
  | post (payload : Payload)
  | put (payload : Payload)
  | patch (payload : Payload)
  | sendTo (method path : String) (body : Option Json)

namespace TerminalCall

variable {m : Type → Type} [Monad m] {ε ρ : Type}

/-- Makes the call on a builder, with the entity set the builder queries. -/
def perform (b : QueryBuilder) (client : Client m ε ρ) (entitySet : String) :
    TerminalCall → m (Except (RequestError ε) ρ)
  | .get => b.get client entitySet
  | .delete => b.delete client entitySet
  | .post payload => b.post client entitySet payload
  | .put payload => b.put client entitySet payload
  | .patch payload => b.patch client entitySet payload
  | .sendTo method path body => b.sendTo client method path body

def method : TerminalCall → String
  | .get => "GET"
  | .delete => "DELETE"
  | .post _ => "POST"
  | .put _ => "PUT"
  | .patch _ => "PATCH"
  | .sendTo method _ _ => method

/-- The path a call is sent to before it is resolved: the entity set, or the one given. -/
def target (entitySet : String) : TerminalCall → String
  | .sendTo _ path _ => path
  | _ => entitySet

def body : TerminalCall → Except String (Option Json)
  | .get | .delete => .ok none
  | .post payload | .put payload | .patch payload => payload.encode.map some
  | .sendTo _ _ body => .ok body

theorem perform_eq (b : QueryBuilder) (client : Client m ε ρ) (entitySet : String)
    (call : TerminalCall) :
    call.perform b client entitySet =
      match call.body with
      | .error reason => pure (.error (.body reason))
      | .ok body => b.sendTo client call.method (call.target entitySet) body := by
  cases call with
  | get | delete | sendTo => rfl
  | post payload | put payload | patch payload =>
    cases encoded : payload.encode <;>
      simp [perform,body,encoded,QueryBuilder.post,QueryBuilder.put,QueryBuilder.patch,
        QueryBuilder.sendWith,method,target,Except.map]

end TerminalCall

theorem RequestError.of_mapError_transport {ε ρ : Type} {answer : Except ε ρ}
    {e : RequestError ε} (failed : answer.mapError .transport = .error e) :
    ∃ reason, e = .transport reason := by
  cases answer with
  | error reason => exact ⟨reason,by simpa [Except.mapError] using failed.symm⟩
  | ok value => simp [Except.mapError] at failed

namespace ClientConfig

theorem resolvePath_ok {c : ClientConfig} {path resolved : String}
    (ok : c.resolvePath path = .ok resolved) :
    (c.serviceRoot = none → resolved = path) ∧
      ∀ root, c.serviceRoot = some root →
        ∃ url, root.join path = .ok url ∧ resolved = url.text := by
  constructor
  · intro none
    simpa [resolvePath,none] using ok.symm
  · intro root some
    cases joined : root.join path with
    | error cause => simp [resolvePath,some,joined] at ok
    | ok url => exact ⟨url,rfl,by simpa [resolvePath,some,joined] using ok.symm⟩

theorem resolvePath_ok_iff (c : ClientConfig) (path : String) :
    (∃ resolved, c.resolvePath path = .ok resolved) ↔
      ∀ root, c.serviceRoot = some root → ∃ url, root.join path = .ok url := by
  cases hasRoot : c.serviceRoot with
  | none => simp [resolvePath,hasRoot]
  | some root =>
    cases joined : root.join path <;> simp [resolvePath,hasRoot,joined]

end ClientConfig

namespace QueryBuilder

variable {ε ρ : Type}

theorem sendTo_logging (b : QueryBuilder) (config : ClientConfig)
    (answer : Request → Except ε ρ) (method path : String) (body : Option Json)
    (log : List Request) (query : Query) (built : b.buildWith config.lambdaVariable = .ok query) :
    ((b.sendTo ⟨config, .logging answer⟩ method path body).run log).run =
      match config.resolvePath path with
      | .error cause => (.error (.config cause), log)
      | .ok resolved =>
        ((answer ⟨method, resolved, query.queryString, body⟩).mapError .transport,
          log ++ [⟨method, resolved, query.queryString, body⟩]) := by
  cases resolved : config.resolvePath path <;> simp [sendTo,built,resolved]

end QueryBuilder

namespace TerminalCall

variable {ε ρ : Type}

/-- A call made through a logging transport that starts from `log`: the answer, and the log
after the call. -/
def logged (b : QueryBuilder) (config : ClientConfig) (answer : Request → Except ε ρ)
    (entitySet : String) (call : TerminalCall) (log : List Request) :
    Except (RequestError ε) ρ × List Request :=
  ((call.perform b ⟨config, .logging answer⟩ entitySet).run log).run

/-- What a terminal call does through a logging transport, given the query the builder builds:
a body that cannot be encoded stops it, then a path that cannot be resolved, and otherwise it
logs its request and gives the transport's answer. -/
theorem perform_logging (b : QueryBuilder) (config : ClientConfig)
    (answer : Request → Except ε ρ) (entitySet : String) (call : TerminalCall)
    (log : List Request) (query : Query) (built : b.buildWith config.lambdaVariable = .ok query) :
    call.logged b config answer entitySet log =
      match call.body with
      | .error reason => (.error (.body reason), log)
      | .ok body =>
        match config.resolvePath (call.target entitySet) with
        | .error cause => (.error (.config cause), log)
        | .ok path =>
          ((answer ⟨call.method, path, query.queryString, body⟩).mapError .transport,
            log ++ [⟨call.method, path, query.queryString, body⟩]) := by
  rw [logged,perform_eq]
  cases encoded : call.body with
  | error reason => rfl
  | ok body => exact QueryBuilder.sendTo_logging b config answer _ _ body log query built

end TerminalCall

/-- A terminal call sends at most once through its transport, here one that logs what it is
handed. The builder's query always builds; a call with a body encodes it first, then the path
is resolved: left as it is without a service root and joined onto the root with one. The call
sends exactly when both succeed, the request of its method, resolved path, built query and
body; a failure of either leaves the log as it was, and a query error is never the answer. -/
theorem terminal_call_sends_at_most_once {ε ρ : Type} (b : QueryBuilder) (config : ClientConfig)
    (answer : Request → Except ε ρ) (entitySet : String) (call : TerminalCall)
    (log : List Request) :
    ∃ query, b.buildWith config.lambdaVariable = .ok query ∧
      call.logged b config answer entitySet log =
        (match call.body with
        | .error reason => (.error (.body reason), log)
        | .ok body =>
          match config.resolvePath (call.target entitySet) with
          | .error cause => (.error (.config cause), log)
          | .ok path =>
            ((answer ⟨call.method, path, query.queryString, body⟩).mapError .transport,
              log ++ [⟨call.method, path, query.queryString, body⟩])) ∧
      ((call.logged b config answer entitySet log).2 = log ∨
        ∃ r, (call.logged b config answer entitySet log).2 = log ++ [r]) ∧
      ((∃ r, (call.logged b config answer entitySet log).2 = log ++ [r]) ↔
        (∃ body, call.body = .ok body) ∧
          ∀ root, config.serviceRoot = some root →
            ∃ url, root.join (call.target entitySet) = .ok url) ∧
      (∀ r, (call.logged b config answer entitySet log).2 = log ++ [r] →
        r.method = call.method ∧ call.body = .ok r.body ∧ r.query = query.queryString ∧
        (config.serviceRoot = none → r.path = call.target entitySet) ∧
        ∀ root, config.serviceRoot = some root →
          ∃ url, root.join (call.target entitySet) = .ok url ∧ r.path = url.text) ∧
      (∀ e, (call.logged b config answer entitySet log).1 = .error e →
        (∀ reason, e ≠ .transport reason) →
        (call.logged b config answer entitySet log).2 = log) ∧
      (∀ cause, (call.logged b config answer entitySet log).1 ≠ .error (.query cause)) ∧
      ∀ r : Request, r.url = if r.query.isEmpty then r.path else r.path ++ "?" ++ r.query := by
  obtain ⟨query,built⟩ : ∃ query, b.buildWith config.lambdaVariable = .ok query :=
    (b.buildWith_eq config.lambdaVariable).elim fun _ ⟨_,built⟩ => ⟨_,built⟩
  have outcome := call.perform_logging b config answer entitySet log query built
  have url : ∀ r : Request,
      r.url = if r.query.isEmpty then r.path else r.path ++ "?" ++ r.query := fun r => rfl
  refine ⟨query,built,outcome,?_⟩
  rw [outcome,← ClientConfig.resolvePath_ok_iff]
  -- the outcome is settled by the body, then by the path
  cases encoded : call.body with
  | error reason => refine ⟨?_,?_,?_,?_,?_,url⟩ <;> simp
  | ok body =>
    cases resolved : config.resolvePath (call.target entitySet) with
    | error cause => refine ⟨?_,?_,?_,?_,?_,url⟩ <;> simp
    | ok path =>
      have paths := ClientConfig.resolvePath_ok resolved
      refine ⟨by simp,by simp,?_,?_,?_,url⟩
      · rintro r same
        obtain rfl : ⟨call.method,path,query.queryString,body⟩ = r := by simpa using same
        exact ⟨rfl,rfl,rfl,paths⟩
      · -- only the transport can fail once the request is logged
        intro e failed notTransport
        obtain ⟨reason,rfl⟩ := RequestError.of_mapError_transport failed
        exact absurd rfl (notTransport reason)
      · intro cause failed
        obtain ⟨reason,same⟩ := RequestError.of_mapError_transport failed
        cases same

/-- A `GET` with no service root, through a transport that echoes: the one request logged goes
to the entity set as it is. -/
theorem get_logs_entity_set :
    (TerminalCall.get.logged {} {} (fun r => (.ok r : Except String Request)) "Entities" []).2 =
      [] ++ [⟨"GET","Entities","",none⟩] ∧
    (⟨"GET","Entities","",none⟩ : Request).path = TerminalCall.get.target "Entities" := by
  have sent : (TerminalCall.get.logged {} {} (fun r => (.ok r : Except String Request))
      "Entities" []).2 = [] ++ [⟨"GET","Entities","",none⟩] := rfl
  obtain ⟨query,-,-,-,-,request,-,-,-⟩ :=
    terminal_call_sends_at_most_once {} {} (fun r => (.ok r : Except String Request)) "Entities"
      .get []
  exact ⟨sent,(request _ sent).2.2.2.1 rfl⟩

end ODataBuilder
