import ResponseCache.Text.Blank
import ResponseCache.Text.Ascii
import ResponseCache.Text.Escaped
import ResponseCache.Net.SocketAddress
/-!
# Server settings

The settings of the server come in three sections: global (connection limit, log level), http
(listen address, keep-alive, request body limit) and cache (on or off, backend, entry bound,
sweep interval and grace, admin path). Loaded settings have their gaps filled from the defaults:
a zero connection limit, body limit or sweep interval, an empty log level, a blank listen
address, and a blank admin path all fall back.

Validation reports errors (a blank listen address, an admin path not starting with `/`) and
warnings (unknown log level, a listen address that needs a name lookup, a disabled or unbounded
cache, a grace far beyond the sweep interval).
-/

namespace ResponseCache
namespace Config

/-- Process-wide settings. -/
structure GlobalSettings where
  /-- The most connections served at once; a 16-bit count. -/
  workerConnections : Nat := 1024
  /-- The log level name. -/
  logLevel : String := "info"
deriving DecidableEq, Repr

/-- HTTP listener settings. -/
structure HttpSettings where
  /-- The address to listen on. -/
  listen : String := "0.0.0.0:8080"
  /-- Whether connections are kept open between requests. -/
  keepalive : Bool := true
  /-- The largest request body accepted, in bytes. -/
  maxRequestBodyBytes : Nat := 10485760
deriving DecidableEq, Repr

/-- The storage backends a cache can use. -/
inductive BackendKind where
  /-- The in-process store. -/
  | memory
deriving DecidableEq, Repr

/-- The name of a backend kind. -/
def BackendKind.name : BackendKind → String
  | .memory => "Memory"

/-- Cache settings. -/
structure CacheSettings where
  /-- Whether requests go through the cache at all. -/
  enabled : Bool := true
  /-- The storage backend. -/
  backend : BackendKind := .memory
  /-- The most entries stored; 0 for no bound. -/
  maxEntries : Nat := 100
  /-- Seconds between sweeps of expired entries. -/
  sweepIntervalSecs : Nat := 60
  /-- Seconds an expired entry is kept before a sweep drops it. -/
  sweepGraceSecs : Nat := 30
  /-- The path where a POST clears the cache, if any. -/
  adminPath : Option String := none
deriving DecidableEq, Repr

/-- All settings. -/
structure Settings where
  /-- The global section. -/
  global : GlobalSettings := {}
  /-- The http section. -/
  http : HttpSettings := {}
  /-- The cache section. -/
  cache : CacheSettings := {}
deriving DecidableEq, Repr

namespace Settings

/-- Fills the gaps of loaded settings from the defaults. -/
def withDefaults (s : Settings) : Settings :=
  let d : Settings := {}
  { global := { s.global with
      workerConnections := if s.global.workerConnections = 0 then d.global.workerConnections
        else s.global.workerConnections,
      logLevel := if s.global.logLevel.isEmpty then d.global.logLevel else s.global.logLevel },
    http := { s.http with
      listen := if (Text.trim s.http.listen).isEmpty then d.http.listen else s.http.listen,
      maxRequestBodyBytes := if s.http.maxRequestBodyBytes = 0 then d.http.maxRequestBodyBytes
        else s.http.maxRequestBodyBytes },
    cache := { s.cache with
      sweepIntervalSecs := if s.cache.sweepIntervalSecs = 0 then d.cache.sweepIntervalSecs
        else s.cache.sweepIntervalSecs,
      adminPath := match s.cache.adminPath with
        | some p => if (Text.trim p).isEmpty then none else some p
        | none => none } }

/-- The default settings. -/
def defaults : Settings := withDefaults {}

end Settings

/-- What validation found. -/
structure Report where
  /-- Problems that make the settings unusable, in order. -/
  errors : List String := []
  /-- Problems worth a look, in order. -/
  warnings : List String := []
deriving DecidableEq, Repr

namespace Report

/-- Whether there are no errors. -/
def isOk (r : Report) : Bool := r.errors.isEmpty

/-- The report as text: an `Errors:` block, a blank line when both blocks are present, and a
`Warnings:` block, each item on a line of its own after `  - `. -/
def format (r : Report) : String :=
  let block := fun (title : String) (items : List String) =>
    title ++ ":\n" ++ String.join (items.map fun i => "  - " ++ i ++ "\n")
  let errs := if r.errors.isEmpty then "" else block "Errors" r.errors
  let warns := if r.warnings.isEmpty then "" else block "Warnings" r.warnings
  if errs.isEmpty then warns else if warns.isEmpty then errs else errs ++ "\n" ++ warns

end Report

/-- The log levels the logger knows. -/
def logLevels : List String := ["trace", "debug", "info", "warn", "error", "off"]

/-- Saturating multiplication of 64-bit words. -/
def mulSat (a b : Nat) : Nat := min (a * b) Text.wordMax

namespace Settings

/-- Checks settings, collecting errors and warnings section by section. -/
def validate (s : Settings) : Report :=
  let warnLevel := if logLevels.contains (Text.lower s.global.logLevel) then []
    else ["global.log_level '" ++ s.global.logLevel ++ "' is not a known level; tracing may reject it"]
  let listen := Text.trim s.http.listen
  let (listenErrors, listenWarnings) :=
    if listen.isEmpty then (["http.listen is empty"], [])
    else if Net.isSocketAddress listen then ([], [])
    else ([], ["http.listen '" ++ listen ++ "' is not a socket address; DNS resolution will be used"])
  let c := s.cache
  let cacheWarnings :=
    (if c.enabled then [] else ["cache.enabled is false; every request goes to the handler"]) ++
    (if c.maxEntries = 0 then ["cache.max_entries is 0; the cache is unbounded"] else []) ++
    (if c.sweepGraceSecs > mulSat c.sweepIntervalSecs 100 then
      ["cache.sweep_grace_secs (" ++ Nat.repr c.sweepGraceSecs ++
        ") is far larger than sweep_interval_secs (" ++ Nat.repr c.sweepIntervalSecs ++
        "); expired entries will linger"] else [])
  let cacheErrors := match c.adminPath with
    | some p => if p.startsWith "/" then [] else ["cache.admin_path '" ++ p ++ "' must start with '/'"]
    | none => []
  { errors := listenErrors ++ cacheErrors, warnings := warnLevel ++ listenWarnings ++ cacheWarnings }

/-- The text of a truth value. -/
def boolText (b : Bool) : String := if b then "true" else "false"

/-- The settings as printed at startup, one line a field, sections between banners. -/
def render (s : Settings) : String :=
  let line := fun (label value : String) => label ++ value ++ "\n"
  "================ HOARD CONFIG ================\n" ++
  "\n[global]\n" ++
  line "  worker_connections   = " (Nat.repr s.global.workerConnections) ++
  line "  log_level            = " s.global.logLevel ++
  "\n[http]\n" ++
  line "  listen               = " s.http.listen ++
  line "  keepalive            = " (boolText s.http.keepalive) ++
  line "  max_request_body_bytes = " (Nat.repr s.http.maxRequestBodyBytes) ++
  "\n[cache]\n" ++
  line "  enabled              = " (boolText s.cache.enabled) ++
  line "  backend              = " s.cache.backend.name ++
  line "  max_entries          = " (Nat.repr s.cache.maxEntries) ++
  line "  sweep_interval_secs  = " (Nat.repr s.cache.sweepIntervalSecs) ++
  line "  sweep_grace_secs     = " (Nat.repr s.cache.sweepGraceSecs) ++
  line "  admin_path           = " (match s.cache.adminPath with
    | some p => "Some(" ++ Text.quote p ++ ")"
    | none => "None") ++
  "==============================================\n"

end Settings

end Config
end ResponseCache
