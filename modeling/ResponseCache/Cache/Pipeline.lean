import ResponseCache.Http.Message
import ResponseCache.Cache.Manager
import ResponseCache.Cache.Outcome
/-!
# The caching pipeline

Every request passes through the pipeline on its way to the handler, the component that computes
responses. A disabled pipeline hands every request straight to the handler. Otherwise:

* an unsafe method goes to the handler, and a 2xx answer drops every stored variant of the
  resource;
* a method other than GET and HEAD goes to the handler untouched;
* GET and HEAD look up a variant: a fresh one is served as a 200 (without body for HEAD), or
  as a 304 when the client holds its tag; otherwise the handler runs, and a GET answer that may
  be stored is stored. If the stored answer has the tag of the expired variant it replaces and the
  client holds that tag, the client gets a 304 instead.

A failing cache never fails a request: a lookup error counts as a miss and a store error leaves
the handler's answer as it is. A handler error is the pipeline's error.

An answer may be stored when its status is 200, its Cache-Control allows storing and gives a
max-age, its first ETag line reads, and its Vary does not say `*`.
-/

namespace ResponseCache
namespace Cache

open Http

/-- Whatever computes responses behind the cache, with a state of type `σ`. A handler may fail
with a message. -/
structure Handler (σ : Type) where
  /-- Answers one request. -/
  call : σ → Request → σ × Except String Response

/-- What handling one request produced. -/
structure Exchange (σ : Type) where
  /-- The answer, or the handler's error. -/
  reply : Except String Response
  /-- How many times the handler ran: 0 or 1. -/
  handlerCalls : Nat
  /-- The cache afterwards. -/
  cache : Manager
  /-- The handler's state afterwards. -/
  state : σ

/-- The names a response's Vary lists, lowered, without repeats or names that do not read;
`none` when it says `*`. -/
def varyNames (hs : Headers) : Option (List HeaderName) :=
  (headerValues hs HeaderName.vary).foldl (fun acc v =>
    acc.bind fun names =>
      if v == "*" then none
      else match HeaderName.ofText? (Text.lower v) with
        | some n => if names.contains n then some names else some (names ++ [n])
        | none => some names) (some [])

/-- The entry to store for a handler's answer, or `none` when the answer must not be stored. -/
def storable (uri : String) (requestHeaders : Headers) (r : Response) : Option NewEntry := do
  if r.status != 200 then none
  let directives ← Freshness.Directives.ofHeaders r.headers
  let ttl ← directives.storableTtl
  let tag ← Validation.EntityTag.ofHeaders r.headers
  let names ← varyNames r.headers
  return { uri, media := Media.MediaType.ofContentType r.headers,
           directives := { maxAge := some ttl }, headers := r.headers, body := r.body,
           etag := tag.value, vary := VarySnapshot.capture requestHeaders names }

/-- Adds the entry's strong tag when the headers carry no ETag. -/
def ensureEtag (hs : Headers) (e : Entry) : Headers :=
  if hs.contains HeaderName.etag then hs
  else match HeaderValue.ofBytes? (HeaderValue.ofText (Validation.EntityTag.strong e.etag).header).bytes with
    | some v => hs.insert HeaderName.etag v
    | none => hs

/-- The 304 for an entry at `now`: validators and cache headers only, no body. -/
def notModified (e : Entry) (now : Nat) : Response :=
  ⟨304, ensureEtag (e.headers.renderValidators (e.remaining now)) e, []⟩

/-- The 200 served from an entry at `now`, with its length; without body for HEAD. -/
def fromCache (e : Entry) (now : Nat) (head : Bool) : Response :=
  let hs := ensureEtag (e.headers.render (e.remaining now)) e
  let hs := hs.insert HeaderName.contentLength (HeaderValue.ofText (Nat.repr e.body.length))
  ⟨200, hs, if head then [] else e.body⟩

/-- Runs the handler once. -/
def delegate {σ : Type} (h : Handler σ) (st : σ) (m : Manager) (req : Request) : Exchange σ :=
  let (st, r) := h.call st req
  ⟨r, 1, m, st⟩

/-- Runs the handler for an unsafe method, dropping the resource's variants after a success. -/
def invalidateAfter {σ : Type} (h : Handler σ) (st : σ) (m : Manager) (req : Request)
    (uri : String) : Exchange σ :=
  let (st, r) := h.call st req
  match r with
  | .ok resp => if resp.isSuccess then ⟨r, 1, (m.remove uri).1, st⟩ else ⟨r, 1, m, st⟩
  | .error _ => ⟨r, 1, m, st⟩

/-- Runs the handler after a lookup found nothing to serve, and stores what may be stored. -/
def recompute {σ : Type} (h : Handler σ) (st : σ) (m : Manager) (req : Request) (uri : String)
    (conds : Validation.Conditions) (reason : Revalidation) : Exchange σ :=
  let (st, r) := h.call st req
  match r with
  | .error _ => ⟨r, 1, m, st⟩
  | .ok resp =>
    if !req.method.isStorable then ⟨r, 1, m, st⟩
    else match storable uri req.headers resp with
      | none => ⟨r, 1, m, st⟩
      | some n =>
        let (m, added) := m.add n
        match added with
        | .ok e =>
          if notModifiedAfterRecompute reason e.etag conds then
            ⟨.ok (notModified e m.now), 1, m, st⟩
          else ⟨r, 1, m, st⟩
        | .error _ => ⟨r, 1, m, st⟩

/-- Handles one request through the cache. -/
def handle {σ : Type} (enabled : Bool) (h : Handler σ) (st : σ) (m : Manager) (req : Request) :
    Exchange σ :=
  if !enabled then delegate h st m req
  else
    let uri := req.uri.cacheKey
    if req.method.invalidates then invalidateAfter h st m req uri
    else if !req.method.isCacheable then delegate h st m req
    else
      let accept := Media.Accept.ofHeaders req.headers
      let conds := Validation.Conditions.ofHeaders req.headers
      let entry := match m.get uri accept req.headers with
        | .ok e => e
        | .error _ => none
      match evaluate entry conds m.now with
      | .notModified e => ⟨.ok (notModified e m.now), 0, m, st⟩
      | .cached e => ⟨.ok (fromCache e m.now (req.method == .head)), 0, m, st⟩
      | .delegate reason => recompute h st m req uri conds reason

end Cache
end ResponseCache
