import ResponseCache.Cache.Pipeline
/-!
# The demonstration resources

A small origin served behind the cache, with counters that start at zero:

* `GET /cache` answers `hello world<n>`, counting its calls;
* `PUT /cache` answers 204, so the cache drops `/cache`;
* `GET /cache/accepts` negotiates `text/plain` or `text/html` against the request's Accept and
  answers `plain<n>` or `html<n>`, each with its own counter, or 406 when neither is acceptable;
* `GET /cache/stuff` always answers `stuff`, counting its calls with `/cache`;
* `GET /cache/vary` echoes the request's first `x-test-vary` value (`default` without one),
  declares `Vary: X-Test-Vary` and reports its count in `x-count`.

HEAD works as GET, other methods on these paths answer 405, and other paths 404. Every 200 may be
stored: it carries a Content-Type, `max-age=2` and the body's SHA-256 entity tag.
-/

namespace ResponseCache
namespace Server

open Http

/-- The call counters of the demonstration resources. -/
structure DemoCounters where
  /-- Calls of `/cache`, `/cache/stuff` and `/cache/vary`. -/
  count : Nat := 0
  /-- Plain-text answers of `/cache/accepts`. -/
  plain : Nat := 0
  /-- HTML answers of `/cache/accepts`. -/
  html : Nat := 0
deriving DecidableEq, Repr

namespace DemoCounters

/-- The freshness lifetime of every answer. -/
def maxAge : Nat := 2

/-- A 200 the cache will store: its media type, lifetime, entity tag and body. -/
def cacheable (contentType : String) (body : List UInt8) : Response :=
  let hs := (Headers.empty.append HeaderName.contentType (HeaderValue.ofText contentType)).append
    HeaderName.cacheControl (HeaderValue.ofText ("max-age=" ++ Nat.repr maxAge))
  ⟨200, hs.append HeaderName.etag (HeaderValue.ofText (Validation.EntityTag.ofBody body).header),
    body⟩

/-- A response with only a status. -/
def bare (status : Nat) : Response := ⟨status, {}, []⟩

/-- The bytes of a text. -/
def bytesOf (s : String) : List UInt8 := s.toUTF8.toList

/-- The paths the resources answer on. -/
def paths : List String := ["/cache", "/cache/accepts", "/cache/stuff", "/cache/vary"]

/-- Answers one request. -/
def respond (c : DemoCounters) (req : Request) : DemoCounters × Response :=
  let path := req.uri.path
  let readable := req.method == .get || req.method == .head
  if readable && path == "/cache" then
    let n := c.count + 1
    ({ c with count := n }, cacheable "text/plain" (bytesOf ("hello world" ++ Nat.repr n)))
  else if req.method == .put && path == "/cache" then (c, bare 204)
  else if readable && path == "/cache/accepts" then
    let offered := [Media.MediaType.ofParts "text" "plain", Media.MediaType.ofParts "text" "html"]
    match (Media.Accept.ofHeaders req.headers).negotiate offered with
    | none => (c, bare 406)
    | some (_, chosen) =>
      if chosen.subtype == "html" then
        let n := c.html + 1
        ({ c with html := n }, cacheable "text/html" (bytesOf ("html" ++ Nat.repr n)))
      else
        let n := c.plain + 1
        ({ c with plain := n }, cacheable "text/plain" (bytesOf ("plain" ++ Nat.repr n)))
  else if readable && path == "/cache/stuff" then
    ({ c with count := c.count + 1 }, cacheable "text/plain" (bytesOf "stuff"))
  else if readable && path == "/cache/vary" then
    let n := c.count + 1
    let value := ((req.headers.get? ⟨"x-test-vary", by decide⟩).bind HeaderValue.text?).getD "default"
    let r := cacheable "text/plain" (bytesOf value)
    let hs := (r.headers.append HeaderName.vary (HeaderValue.ofText "X-Test-Vary")).append
      ⟨"x-count", by decide⟩ (HeaderValue.ofText (Nat.repr n))
    ({ c with count := n }, { r with headers := hs })
  else if paths.contains path then (c, bare 405)
  else (c, bare 404)

/-- The demonstration resources as a handler; they never fail. -/
def handler : Cache.Handler DemoCounters :=
  ⟨fun c req => let (c, r) := c.respond req; (c, .ok r)⟩

end DemoCounters

end Server
end ResponseCache
