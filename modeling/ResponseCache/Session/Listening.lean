import ResponseCache.Session.Basic
import ResponseCache.Server.Listen
import ResponseCache.Server.Demo
import ResponseCache.Config.Settings
/-!
# Server sessions

A server session starts the server over the demonstration resources with given settings, on a
cache clock that moves only when told to, and lets clients send it raw requests over the host's
network.
-/

namespace ResponseCache
namespace Session

/-- A step of a server session. -/
inductive ServerStep where
  /-- A client sends these bytes on a new connection. -/
  | send (raw : List UInt8)
  /-- The cache clock moves on. -/
  | advance (secs : Nat)
  /-- How many entries the cache holds. -/
  | len

/-- What a server session step answered. -/
inductive ServerAnswer where
  /-- The bytes the server sent back, and how many times the handler ran. -/
  | response (raw : List UInt8) (handlerCalls : Nat)
  /-- The connection failed. -/
  | ioError (message : String)
  /-- The cache clock reads this. -/
  | clock (now : Nat)
  /-- The cache holds this many entries. -/
  | count (n : Nat)
  /-- The cache failed. -/
  | cacheError (e : Cache.CacheError)

/-- A running server. -/
structure Listening where
  /-- The settings it runs with. -/
  settings : Config.Settings
  /-- The cache. -/
  cache : Cache.Manager
  /-- The demonstration resources' counters. -/
  counters : Server.DemoCounters := {}
  /-- The network clients use. -/
  network : Server.Network

namespace Listening

/-- A server started with `settings` and the cache clock at `start`. -/
def start (settings : Config.Settings) (start : Nat) (network : Server.Network) : Listening :=
  ⟨settings, { backend := .memory (Cache.Store.bounded settings.cache.maxEntries), now := start },
    {}, network⟩

/-- Runs one step. -/
def step (l : Listening) : ServerStep → Listening × ServerAnswer
  | .send raw =>
    (l, match l.network.exchange raw with
      | .ok bytes => .response bytes 0
      | .error m => .ioError m)
  | .advance secs =>
    let m := { l.cache with now := Cache.addWrap l.cache.now secs }
    ({ l with cache := m }, .clock m.now)
  | .len =>
    (l, match l.cache.len with
      | .ok n => .count n
      | .error e => .cacheError e)

end Listening

end Session
end ResponseCache
