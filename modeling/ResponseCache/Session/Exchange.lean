import ResponseCache.Session.Basic
import ResponseCache.Server.Demo
import ResponseCache.Server.Worker
/-!
# Request sessions

A request session puts an origin behind the pipeline and sends it requests, between which the
cache and clock steps of a cache session may run. The origin is either the demonstration
resources or a scripted origin, which answers each request with the reply given for it (404
without body when none was given). Requests go to the pipeline directly, or, when the session
has a worker context, through the worker's body collection and admin endpoint.
-/

namespace ResponseCache
namespace Session

open Cache Http

/-- A reply given in advance for a request. -/
inductive ScriptedReply where
  /-- The origin fails with this message. -/
  | fail (message : String)
  /-- The origin answers with this response. -/
  | respond (r : Response)
deriving DecidableEq, Repr

/-- Which origin a session puts behind the pipeline. -/
inductive OriginKind where
  /-- The demonstration resources. -/
  | demo
  /-- Answers given with each request. -/
  | scripted
deriving DecidableEq, Repr

/-- The state of a session's origin. -/
structure Origin where
  /-- Which origin answers. -/
  kind : OriginKind
  /-- The counters of the demonstration resources. -/
  counters : Server.DemoCounters := {}
  /-- The scripted reply for the current request. -/
  reply : Option ScriptedReply := none

/-- The origin as a handler. -/
def Origin.handler : Handler Origin :=
  ⟨fun o req =>
    match o.kind with
    | .demo => let (c, r) := o.counters.respond req; ({ o with counters := c }, .ok r)
    | .scripted =>
      match o.reply with
      | none => (o, .ok ⟨404, {}, []⟩)
      | some (.fail m) => (o, .error m)
      | some (.respond r) => (o, .ok r)⟩

/-- A request as a step gives it. -/
structure RequestStep where
  /-- The request; its body is the one delivered. -/
  request : Request
  /-- The reply a scripted origin gives. -/
  reply : Option ScriptedReply := none
  /-- The failure that ends the body stream, if any. -/
  bodyFailure : Option String := none

/-- A step of a request session. -/
inductive ExchangeStep where
  /-- A step on the cache or the clocks. -/
  | cache (s : Step)
  /-- A request through the pipeline. -/
  | request (r : RequestStep)

/-- A request session. -/
structure Exchanges where
  /-- The cache, clocks and sweeper. -/
  state : State
  /-- The origin. -/
  origin : Origin
  /-- Whether the pipeline caches at all. -/
  enabled : Bool := true
  /-- The worker context, when requests arrive on connections. -/
  worker : Option Server.WorkerContext := none

namespace Exchanges

/-- Sends one request. -/
def send (x : Exchanges) (r : RequestStep) : Exchanges × Answer :=
  let origin := { x.origin with reply := r.reply }
  let ex := match x.worker with
    | some ctx => Server.respond ctx x.enabled Origin.handler origin x.state.cache r.request
        ⟨r.request.body, r.bodyFailure⟩
    | none => Cache.handle x.enabled Origin.handler origin x.state.cache r.request
  let x := { x with state := { x.state with cache := ex.cache }, origin := ex.state }
  (x, match ex.reply with
    | .ok resp => .reply resp ex.handlerCalls
    | .error m => .handlerError m ex.handlerCalls)

/-- Runs one step. -/
def step (x : Exchanges) : ExchangeStep → Exchanges × Answer
  | .cache s => let (st, a) := x.state.step s; ({ x with state := st }, a)
  | .request r => x.send r

end Exchanges

end Session
end ResponseCache
