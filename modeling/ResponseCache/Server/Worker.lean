import ResponseCache.Cache.Pipeline
import ResponseCache.Config.Settings
/-!
# Answering a request on a connection

A worker first collects the whole request body. A body longer than the limit is refused with 413,
and a body that fails while being read with 400. A POST to the configured admin path clears the
cache (204, or 503 when the backend refuses). Every other request goes through the pipeline, and
a handler error becomes a 500.
-/

namespace ResponseCache
namespace Server

open Http

/-- What a worker needs besides the pipeline. -/
structure WorkerContext where
  /-- The path where a POST clears the cache. -/
  adminPath : Option String := none
  /-- The largest request body accepted, in bytes. -/
  maxBodyBytes : Nat := 10485760
deriving DecidableEq, Repr

/-- The context built from settings. -/
def WorkerContext.ofSettings (s : Config.Settings) : WorkerContext :=
  ⟨s.cache.adminPath, s.http.maxRequestBodyBytes⟩

/-- A request body as it arrives: its bytes, and the failure that ends the stream, if any. -/
structure IncomingBody where
  /-- The bytes delivered. -/
  bytes : List UInt8
  /-- The error reported after the bytes, if the stream fails. -/
  failure : Option String := none
deriving DecidableEq, Repr

/-- Why a request body was refused. -/
inductive BodyError where
  /-- Longer than the limit. -/
  | tooLarge (limit : Nat)
  /-- The stream failed. -/
  | broken (message : String)
deriving DecidableEq, Repr

namespace BodyError

/-- The status answering a refused body. -/
def status : BodyError → Nat
  | .tooLarge _ => 413
  | .broken _ => 400

/-- The text answering a refused body. -/
def message : BodyError → String
  | .tooLarge limit => "request body exceeds " ++ Nat.repr limit ++ " bytes"
  | .broken m => "failed to read request body: " ++ m

end BodyError

/-- Collects a body within a limit. -/
def collectBody (limit : Nat) (b : IncomingBody) : Except BodyError (List UInt8) :=
  if b.bytes.length > limit then .error (.tooLarge limit)
  else match b.failure with
    | some m => .error (.broken m)
    | none => .ok b.bytes

/-- Whether a request asks to clear the cache. -/
def isAdminClear (ctx : WorkerContext) (req : Request) : Bool :=
  req.method == .post && ctx.adminPath == some req.uri.path

/-- Answers one request on a connection. The request's own body is replaced by the collected
one. -/
def respond {σ : Type} (ctx : WorkerContext) (enabled : Bool) (h : Cache.Handler σ) (st : σ)
    (m : Cache.Manager) (req : Request) (body : IncomingBody) : Cache.Exchange σ :=
  match collectBody ctx.maxBodyBytes body with
  | .error e => ⟨.ok (Response.plain e.status e.message), 0, m, st⟩
  | .ok bytes =>
    let req := { req with body := bytes }
    if isAdminClear ctx req then
      let (m, r) := m.clear
      match r with
      | .ok () => ⟨.ok (Response.plain 204 ""), 0, m, st⟩
      | .error _ => ⟨.ok (Response.plain 503 "Cache unavailable"), 0, m, st⟩
    else
      let ex := Cache.handle enabled h st m req
      match ex.reply with
      | .ok _ => ex
      | .error _ => { ex with reply := .ok (Response.plain 500 "Internal Server Error") }

end Server
end ResponseCache
