import ResponseCache.Config.Load
import ResponseCache.Server.Worker
import ResponseCache.Server.Demo
import ResponseCache.Server.Listen
import ResponseCache.Http.Wire
import Std.Async.TCP
import Std.Async.DNS
/-!
# The server program

Reads `hoard.conf` from the working directory, writes the loading report to the error stream
and the settings in force to the output, and serves the demonstration resources behind the cache
on the configured listen address until it is stopped. A missing file gives the defaults, and so
does a file that does not load or does not validate.

The cache reads the system clock. When the cache is enabled, a sweeper drops long-expired
entries every `sweep_interval_secs`. At most `worker_connections` connections are served at
once; each takes requests until it asks to close, keep-alive is off, or the client hangs up.
This module is the outer layer: every decision is made by the library.
-/

namespace ResponseCache
namespace Serving

open Std.Async

/-- What all connections share: the cache and the resources' counters. -/
structure Shared where
  /-- The cache. -/
  cache : Cache.Manager
  /-- The counters of the demonstration resources. -/
  counters : Server.DemoCounters := {}

/-- The settings file, read from the working directory. -/
def settingsFile : String := "hoard.conf"

/-- The seconds since the Unix epoch. -/
def wallSeconds : IO Nat := do
  return (← Std.Time.Timestamp.now).toSecondsSinceUnixEpoch.val.toNat

/-- The contents of the settings file, or `none` when it cannot be read. -/
def readSettingsFile : IO (Option String) := do
  try
    return some (← IO.FS.readFile settingsFile)
  catch _ =>
    return none

/-- Resolves the listen address, failing as binding does. -/
def resolve (listen : String) : IO Std.Net.SocketAddress := do
  if let some message := Server.bindFailure listen then
    throw (IO.userError message)
  match Net.hostAndPort listen with
  | .error e => throw (IO.userError ("failed to bind " ++ listen ++ ": " ++ e.message))
  | .ok (host, portText) =>
    let host := if host.startsWith "[" && host.endsWith "]" then
        String.ofList (host.toList.drop 1).dropLast
      else host
    let port := (Text.readShort portText).getD 0
    let addresses ← (DNS.getAddrInfo host "").block
    match addresses.toList.head? with
    | some (.v4 a) => return .v4 ⟨a, port.toUInt16⟩
    | some (.v6 a) => return .v6 ⟨a, port.toUInt16⟩
    | none => throw (IO.userError ("failed to bind " ++ listen ++ ": no address found"))

/-- Sends bytes to a client. -/
def sendBytes (client : TCP.Socket.Client) (bytes : List UInt8) : IO Unit :=
  (client.send ⟨bytes.toArray⟩).block

/-- Answers one request through the worker, updating the shared state in one step. -/
def answer (settings : Config.Settings) (shared : IO.Ref Shared) (request : Http.Request) :
    IO Http.Response := do
  let now ← wallSeconds
  let ctx := Server.WorkerContext.ofSettings settings
  shared.modifyGet fun st =>
    let ex := Server.respond ctx settings.cache.enabled Server.DemoCounters.handler st.counters
      { st.cache with now := now } request ⟨request.body, none⟩
    let response := match ex.reply with
      | .ok r => r
      | .error _ => Http.Response.plain 500 "Internal Server Error"
    (response, { st with cache := ex.cache, counters := ex.state })

/-- Serves requests on one connection, with the bytes received but not yet read. -/
partial def serveConnection (settings : Config.Settings) (shared : IO.Ref Shared)
    (client : TCP.Socket.Client) (buffer : List UInt8) : IO Unit := do
  match Http.Wire.readRequest buffer with
  | .incomplete =>
    match ← (client.recv? 65536).block with
    | none => pure ()
    | some bytes => serveConnection settings shared client (buffer ++ bytes.toList)
  | .malformed e =>
    sendBytes client (Http.Wire.render (Http.Response.plain e.status "") false true)
    (client.shutdown).block
  | .complete (head, body) rest =>
    let response ← answer settings shared (head.toRequest body)
    let close := !(settings.http.keepalive && head.keepsAlive)
    sendBytes client (Http.Wire.render response (head.method == .head) close)
    if close then (client.shutdown).block
    else serveConnection settings shared client rest

/-- Sleeps for a number of seconds, an hour at a time. -/
partial def sleepSeconds (secs : Nat) : IO Unit := do
  if secs > 3600 then
    IO.sleep 3600000
    sleepSeconds (secs - 3600)
  else
    IO.sleep (secs * 1000).toUInt32

/-- Drops entries expired for longer than `grace` every `interval` seconds, forever. -/
partial def sweep (interval grace : Nat) (shared : IO.Ref Shared) : IO Unit := do
  sleepSeconds interval
  let now ← wallSeconds
  shared.modify fun st => { st with cache := ({ st.cache with now := now }.purgeExpired grace).1 }
  sweep interval grace shared

/-- Accepts connections forever, serving each on its own task, while fewer than
`worker_connections` are open. -/
partial def acceptLoop (settings : Config.Settings) (shared : IO.Ref Shared)
    (server : TCP.Socket.Server) (active : IO.Ref Nat) : IO Unit := do
  while (← active.get) ≥ settings.global.workerConnections do
    IO.sleep 5
  try
    let client ← server.accept.block
    active.modify (· + 1)
    let _ ← IO.asTask (do
        try serveConnection settings shared client [] catch _ => pure ()
        active.modify (· - 1)) Task.Priority.dedicated
  catch _ =>
    IO.sleep 50
  acceptLoop settings shared server active

/-- Starts the server with the settings in force. -/
def run (settings : Config.Settings) : IO Unit := do
  let start ← wallSeconds
  let shared ← IO.mkRef ({ cache :=
    { backend := .memory (Cache.Store.bounded settings.cache.maxEntries), now := start } } : Shared)
  let address ← resolve settings.http.listen
  let server ← TCP.Socket.Server.mk
  server.bind address
  server.listen 1024
  if settings.cache.enabled then
    let _ ← IO.asTask (sweep settings.cache.sweepIntervalSecs settings.cache.sweepGraceSecs shared)
      Task.Priority.dedicated
  acceptLoop settings shared server (← IO.mkRef 0)

end Serving
end ResponseCache

open ResponseCache in
/-- Loads the settings, prints them, and serves until stopped; a failure to start is reported
on the error stream with exit code 1. -/
def main : IO UInt32 := do
  let fallback := Config.loadFileOrDefault Serving.settingsFile (← Serving.readSettingsFile)
  IO.eprint fallback.notice
  IO.print fallback.settings.render
  (← IO.getStdout).flush
  try
    Serving.run fallback.settings
    return 0
  catch e =>
    IO.eprintln ("Error: " ++ toString e)
    return 1
