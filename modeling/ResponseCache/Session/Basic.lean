import ResponseCache.Cache.Pipeline
import ResponseCache.Session.Timer
/-!
# Cache sessions

A session drives a cache through a list of steps on a clock that moves only when told to. Apart
from the cache's own operations, a session can move the clock (`advance` adds, wrapping at 2^64;
`set` sets) and sleep. Sleeping passes the time of a second clock, the timer clock of
`ResponseCache.Session.Timer`, which moves only while the session sleeps and on which the sweeper
ticks, purging the cache at the cache clock's reading.

Every purge of one sleep happens at one cache clock reading, and purges at one reading are
idempotent, so however many ticks run while the session waits, one purge stands for them all.
-/

namespace ResponseCache
namespace Session

open Cache

/-- A background sweeper: every `interval` seconds of timer time it purges what expired more
than `grace` seconds ago. -/
structure Sweeper where
  /-- Seconds between purges; positive. -/
  interval : Nat
  /-- Seconds an expired entry is kept. -/
  grace : Nat := 0
deriving DecidableEq, Repr

/-- Whether a reading of the system clock, in Unix seconds, lies after 13 September 2020, as
every reading on a correctly set host does. -/
def isCurrentSystemTime (secs : Nat) : Bool := secs > 1600000000

/-- An entry as a session reports it: with its state at the current clock reading. -/
structure EntryReport where
  /-- The entry. -/
  entry : Entry
  /-- Whether it is expired now. -/
  expired : Bool
  /-- The seconds it has left now. -/
  remaining : Nat
deriving DecidableEq, Repr

/-- The report of an entry at `now`. -/
def EntryReport.at (e : Entry) (now : Nat) : EntryReport := ⟨e, e.isExpired now, e.remaining now⟩

/-- A response to store, as a step gives it. -/
structure AddRequest where
  /-- The resource key. -/
  uri : String
  /-- The entity tag value. -/
  etag : String
  /-- The media type. -/
  media : Media.MediaType := Media.MediaType.octetStream
  /-- The lifetime; none stores the entry with lifetime 0. -/
  maxAge : Option Nat := none
  /-- The response headers. -/
  headers : Http.Headers := {}
  /-- The body. -/
  body : List UInt8 := []
  /-- The recorded vary values. -/
  vary : VarySnapshot := {}

/-- A lookup as a step gives it. -/
structure Lookup where
  /-- The resource key. -/
  uri : String
  /-- An Accept value given apart from the headers. -/
  accept : Option String := none
  /-- The request headers. -/
  headers : Http.Headers := {}

/-- The Accept of a lookup: its own value if given, else the headers'. -/
def Lookup.acceptOf (l : Lookup) : Media.Accept :=
  match l.accept with
  | some v => Media.Accept.parse v
  | none => Media.Accept.ofHeaders l.headers

/-- A step that works on the cache or the clocks. -/
inductive Step where
  /-- Stores a new entry. -/
  | add (r : AddRequest)
  /-- Looks up the variant a request would get. -/
  | get (l : Lookup)
  /-- Looks up a variant and judges it against the request's conditions. -/
  | evaluate (l : Lookup)
  /-- Drops every variant of a resource. -/
  | remove (uri : String)
  /-- Drops everything. -/
  | clear
  /-- Counts the entries. -/
  | len
  /-- Purges through the cache at its clock's time. -/
  | purge (grace : Nat)
  /-- Purges the store directly at a given time. -/
  | purgeAt (now grace : Nat)
  /-- Moves the cache clock on, wrapping at the word size. -/
  | advance (secs : Nat)
  /-- Sets the cache clock. -/
  | set (secs : Nat)
  /-- Lets time pass for the sweeper; the cache clock stays. -/
  | sleep (secs : Nat)
  /-- Lists every variant of a resource, oldest first. -/
  | variants (uri : String)

/-- What a step answered. -/
inductive Answer where
  /-- The entry just stored. -/
  | entry (r : EntryReport)
  /-- The variant found, if any. -/
  | found (r : Option EntryReport)
  /-- The outcome's label and the tag of the entry it concerns. -/
  | evaluated (outcome : String) (etag : Option String)
  /-- A number of entries. -/
  | count (n : Nat)
  /-- The cache was emptied. -/
  | cleared
  /-- The cache clock reads this. -/
  | clock (now : Nat)
  /-- Every variant of a resource. -/
  | entries (rs : List EntryReport)
  /-- The cache failed. -/
  | cacheError (e : CacheError)
  /-- The store, called directly, failed. -/
  | storeError (e : StoreError)
  /-- A response, and how many times the handler ran for it. -/
  | reply (r : Http.Response) (handlerCalls : Nat)
  /-- The handler failed with this message. -/
  | handlerError (message : String) (handlerCalls : Nat)

/-- A cache with its clocks and sweeper. -/
structure State where
  /-- The cache; its clock reading is the session's clock. -/
  cache : Manager
  /-- The sweeper, if one runs. -/
  sweeper : Option Sweeper := none
  /-- The timer clock and the sweeper's ticker. -/
  timer : Timer := {}

namespace State

/-- Sleeps `secs` seconds of timer time, the sweeper purging if one of its ticks does. -/
def sleep (s : State) (secs : Nat) : State :=
  let (purged, timer) := s.timer.sleep (s.sweeper.map Sweeper.interval) secs
  match s.sweeper with
  | some sw => if purged then { s with timer, cache := (s.cache.purgeExpired sw.grace).1 }
    else { s with timer }
  | none => { s with timer }

/-- The entries stored under a resource key, ordered by sequence, as the backend holds them. -/
def variantsOf (m : Manager) (uri : String) : Except StoreError (List Entry) :=
  match m.backend with
  | .memory st => .ok ((st.get uri).mergeSort fun a b => a.sequence ≤ b.sequence)
  | .failing errors => .error errors.get

/-- Purges the backend directly at a given time. -/
def purgeBackendAt (m : Manager) (now grace : Nat) : Manager × Except StoreError Nat :=
  match m.backend with
  | .memory st =>
    let (st, n) := st.purgeExpired now grace
    ({ m with backend := .memory st }, .ok n)
  | .failing errors => (m, .error errors.purge)

/-- Runs one cache or clock step. -/
def step (s : State) : Step → State × Answer
  | .add r =>
    let (m, res) := s.cache.add ⟨r.uri, r.media, { maxAge := r.maxAge }, r.headers, r.body,
      r.etag, r.vary⟩
    ({ s with cache := m }, match res with
      | .ok e => .entry (EntryReport.at e m.now)
      | .error err => .cacheError err)
  | .get l =>
    (s, match s.cache.get l.uri l.acceptOf l.headers with
      | .ok e => .found (e.map fun e => EntryReport.at e s.cache.now)
      | .error err => .cacheError err)
  | .evaluate l =>
    (s, match s.cache.get l.uri l.acceptOf l.headers with
      | .ok e =>
        .evaluated (evaluate e (Validation.Conditions.ofHeaders l.headers) s.cache.now).label
          (e.map Entry.etag)
      | .error err => .cacheError err)
  | .remove uri =>
    let (m, res) := s.cache.remove uri
    ({ s with cache := m }, match res with
      | .ok n => .count n
      | .error err => .cacheError err)
  | .clear =>
    let (m, res) := s.cache.clear
    ({ s with cache := m }, match res with
      | .ok () => .cleared
      | .error err => .cacheError err)
  | .len =>
    (s, match s.cache.len with
      | .ok n => .count n
      | .error err => .cacheError err)
  | .purge grace =>
    let (m, res) := s.cache.purgeExpired grace
    ({ s with cache := m }, match res with
      | .ok n => .count n
      | .error err => .cacheError err)
  | .purgeAt now grace =>
    let (m, res) := purgeBackendAt s.cache now grace
    ({ s with cache := m }, match res with
      | .ok n => .count n
      | .error err => .storeError err)
  | .advance secs =>
    let m := { s.cache with now := addWrap s.cache.now secs }
    ({ s with cache := m }, .clock m.now)
  | .set secs =>
    let m := { s.cache with now := secs }
    ({ s with cache := m }, .clock m.now)
  | .sleep secs =>
    let s := s.sleep secs
    (s, .clock s.cache.now)
  | .variants uri =>
    (s, match variantsOf s.cache uri with
      | .ok es => .entries (es.map fun e => EntryReport.at e s.cache.now)
      | .error err => .storeError err)

end State

end Session
end ResponseCache
