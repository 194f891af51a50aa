import ResponseCache.Cache.Store
import ResponseCache.Cache.Select
import ResponseCache.Freshness.Directives
/-!
# The cache manager

The manager stands in front of a storage backend. It reads the cache's clock, numbers the
entries it stores in order (a number is used up even when the backend refuses the entry), fills
in expiry from the response's max-age (0 when there is none), and chooses among the variants of
a resource for each request.

A backend error is reported with the operation and the resource key it concerned (`*` for
operations on the whole cache).
-/

namespace ResponseCache
namespace Cache

/-- Why a backend refused a call. -/
inductive StoreError where
  /-- The backend cannot be reached; trying again may help. -/
  | unavailable (reason : String)
  /-- The backend refuses the operation. -/
  | rejected (reason : String)
deriving DecidableEq, Repr

namespace StoreError

/-- The text of a backend error. -/
def message : StoreError → String
  | .unavailable r => "cache backend unavailable: " ++ r
  | .rejected r => "cache backend rejected the operation: " ++ r

/-- Whether trying again may help. -/
def isRetryable : StoreError → Bool
  | .unavailable _ => true
  | .rejected _ => false

end StoreError

/-- A backend failure, with the operation and resource key it concerned. -/
structure CacheError where
  /-- The operation: `add`, `get`, `remove`, `clear`, `purge` or `len`. -/
  op : String
  /-- The resource key, or `*`. -/
  uri : String
  /-- The backend's error. -/
  source : StoreError
deriving DecidableEq, Repr

namespace CacheError

/-- The text of a cache error. -/
def message (e : CacheError) : String :=
  "store failure on " ++ e.op ++ " " ++ e.uri ++ ": " ++ e.source.message

/-- Whether trying again may help. -/
def isRetryable (e : CacheError) : Bool := e.source.isRetryable

end CacheError

/-- The error a backend that serves no call gives for each kind of call. -/
structure Failures where
  /-- The error of an add. -/
  add : StoreError
  /-- The error of a lookup. -/
  get : StoreError
  /-- The error of a removal. -/
  remove : StoreError
  /-- The error of a clear. -/
  clear : StoreError
  /-- The error of a purge. -/
  purge : StoreError
  /-- The error of a count. -/
  len : StoreError
deriving DecidableEq, Repr

/-- A storage backend. -/
inductive Backend where
  /-- The in-memory store. -/
  | memory (store : Store)
  /-- A backend that serves no call, failing each kind of call with its own error. -/
  | failing (errors : Failures)
deriving DecidableEq, Repr

/-- A response handed to the cache for storing. -/
structure NewEntry where
  /-- The resource key. -/
  uri : String
  /-- The media type of the body. -/
  media : Media.MediaType
  /-- The response's Cache-Control directives. -/
  directives : Freshness.Directives
  /-- The response headers. -/
  headers : Http.Headers
  /-- The body. -/
  body : List UInt8
  /-- The entity tag value. -/
  etag : String
  /-- The request values recorded for the response's Vary names. -/
  vary : VarySnapshot

/-- The cache: a backend, the clock reading, and the next sequence number. -/
structure Manager where
  /-- Where entries live. -/
  backend : Backend
  /-- The cache clock's reading, in seconds. -/
  now : Nat := 0
  /-- The sequence number of the next entry. -/
  nextSequence : Nat := 0
deriving DecidableEq, Repr

namespace Manager

/-- Stores a response as a new entry created now. -/
def add (m : Manager) (n : NewEntry) : Manager × Except CacheError Entry :=
  let e := Entry.create n.uri n.media (CapturedHeaders.capture n.headers) n.body n.etag
    (n.directives.maxAge.getD 0) m.now n.vary m.nextSequence
  let m := { m with nextSequence := addWrap m.nextSequence 1 }
  match m.backend with
  | .memory s => ({ m with backend := .memory (s.add m.now e) }, .ok e)
  | .failing errors => (m, .error ⟨"add", e.uri, errors.add⟩)

/-- The variant of a resource that best fits a request, expired or not. -/
def get (m : Manager) (uri : String) (accept : Media.Accept) (hs : Http.Headers) :
    Except CacheError (Option Entry) :=
  match m.backend with
  | .memory s => .ok (selectVariant (s.get uri) accept hs)
  | .failing errors => .error ⟨"get", uri, errors.get⟩

/-- Drops every variant of a resource, with how many there were. -/
def remove (m : Manager) (uri : String) : Manager × Except CacheError Nat :=
  match m.backend with
  | .memory s =>
    let (s, n) := s.remove uri
    ({ m with backend := .memory s }, .ok n)
  | .failing errors => (m, .error ⟨"remove", uri, errors.remove⟩)

/-- Drops everything. -/
def clear (m : Manager) : Manager × Except CacheError Unit :=
  match m.backend with
  | .memory s => ({ m with backend := .memory s.clear }, .ok ())
  | .failing errors => (m, .error ⟨"clear", "*", errors.clear⟩)

/-- Drops, at the cache's clock reading, the entries expired for longer than `grace`. -/
def purgeExpired (m : Manager) (grace : Nat) : Manager × Except CacheError Nat :=
  match m.backend with
  | .memory s =>
    let (s, n) := s.purgeExpired m.now grace
    ({ m with backend := .memory s }, .ok n)
  | .failing errors => (m, .error ⟨"purge", "*", errors.purge⟩)

/-- How many entries are stored. -/
def len (m : Manager) : Except CacheError Nat :=
  match m.backend with
  | .memory s => .ok s.len
  | .failing errors => .error ⟨"len", "*", errors.len⟩

end Manager

end Cache
end ResponseCache
