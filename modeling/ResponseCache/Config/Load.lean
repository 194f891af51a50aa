import ResponseCache.Config.Settings
import ResponseCache.Config.Ini
import ResponseCache.Text.Case
/-!
# Loading settings from INI text

The entries of a document are set into a settings tree one by one: each entry before the first
section under its name, each section as a table under its name, with its keys lowered. A later
section of exactly the same name, or a later key of the same lowered name in one section,
replaces an earlier one. The names are lowered and then read as paths: plain names (ASCII
letters, digits, spaces, `_` and `-`) joined by `.` reach into tables, and `[n]` after a name
reaches into a sequence at position `n` (counted from the back when negative), padding it with
empty values. A name that is not such a path is taken as it is. A table set over a table merges
into it; anything else replaces what was there.

Each known field is then read from the tree: integers as unsigned decimals (`true`, `on`, `yes`
count as 1 and `false`, `off`, `no` as 0), truth values from `1`/`0`, `true`/`false`, `on`/`off`
or `yes`/`no` in any case, texts as they are, and the backend by name in any case or as a table
whose one key is the name. A section may also be a sequence, whose items are then its fields in
order. Unknown names are ignored and missing fields keep their defaults; gaps are then filled as
for any loaded settings.

A value that does not convert names its key; only a text read from a file also names the file,
since tables and sequences are built while merging and come from no file.
-/

namespace ResponseCache
namespace Config

/-- A node of the settings tree. -/
inductive Node where
  /-- A text value. -/
  | text (value : String)
  /-- A table of named nodes. -/
  | table (entries : List (String × Node))
  /-- A sequence of nodes. -/
  | array (items : List Node)
  /-- The empty value that pads a sequence. -/
  | nil
deriving Repr, Inhabited

/-- One step of a path into the settings tree. -/
inductive Step where
  /-- Into a table, by name. -/
  | key (name : String)
  /-- Into a sequence, by signed position. -/
  | index (position : Int)
deriving DecidableEq, Repr

namespace Node

/-- Sets the node at `name` of an association list, keeping its place. -/
def assign (name : String) (n : Node) : List (String × Node) → List (String × Node)
  | [] => [(name, n)]
  | (k, v) :: rest => if k = name then (k, n) :: rest else (k, v) :: assign name n rest

mutual
/-- Sets `incoming` at `name` within `entries`: a table merges into a table there, or replaces
anything else there unless it is empty and so sets nothing; any other node replaces what is
there. -/
def setAt (name : String) : Node → List (String × Node) → List (String × Node)
  | .table incoming, entries =>
    match entries.lookup name, incoming with
    | some (.table es), _ => assign name (.table (mergeAll incoming es)) entries
    | some _, [] => entries
    | _, _ => assign name (.table (mergeAll incoming [])) entries
  | n, entries => assign name n entries

/-- Sets every entry of `incoming` into `entries`, in order. -/
def mergeAll : List (String × Node) → List (String × Node) → List (String × Node)
  | [], entries => entries
  | (k, v) :: rest, entries => mergeAll rest (setAt k v entries)
end

/-- The entries of a node taken as a table: none unless it is one. -/
def entriesOf : Node → List (String × Node)
  | .table es => es
  | _ => []

/-- The items of a node taken as a sequence: none unless it is one. -/
def itemsOf : Node → List Node
  | .array xs => xs
  | _ => []

/-- The place a signed position names in a sequence of `len` items: counted from the front, or
from the back when negative; none when it would fall before the front. -/
def slot (i : Int) (len : Nat) : Option Nat :=
  if 0 ≤ i then some i.toNat else if i.natAbs ≤ len then some (len - i.natAbs) else none

/-- A sequence padded with empty values so that it has place `k`. -/
def padTo (xs : List Node) (k : Nat) : List Node :=
  xs ++ List.replicate (k + 1 - xs.length) .nil

/-- Sets `v` at a path within a node: the node on the way is made a table or a sequence as the
step needs, and the last step by name merges as `setAt` does. -/
def setPath : List Step → Node → Node → Node
  | [], _, n => n
  | [.key k], v, n => .table (setAt k v (entriesOf n))
  | [.index i], v, n =>
    let xs := itemsOf n
    match slot i xs.length with
    | some k => .array ((padTo xs k).set k v)
    | none => .array xs
  | .key k :: rest, v, n =>
    let es := entriesOf n
    .table (assign k (setPath rest v ((es.lookup k).getD .nil)) es)
  | .index i :: rest, v, n =>
    let xs := itemsOf n
    match slot i xs.length with
    | some k =>
      let ys := padTo xs k
      .array (ys.set k (setPath rest v (ys.getD k .nil)))
    | none => .array xs

end Node

/-- A character of a plain name in a path. -/
def isPathChar (c : Char) : Bool := c.isAlphanum || c = ' ' || c = '_' || c = '-'

/-- A space or a tab, allowed around the number of a position. -/
def isSpaceOrTab (c : Char) : Bool := c = ' ' || c = '\t'

/-- Reads a plain name at the front of a text. -/
def readName (cs : List Char) : Option (String × List Char) :=
  let name := cs.takeWhile isPathChar
  if name.isEmpty then none else some (String.ofList name, cs.dropWhile isPathChar)

/-- The largest magnitude of a signed 64-bit position. -/
def positionBound : Nat := 9223372036854775808

/-- Reads the rest of a position after its `[`: an optional minus sign and decimal digits, with
spaces or tabs around them, then `]`. The position must fit in 64 signed bits. -/
def readPosition (cs : List Char) : Option (Int × List Char) :=
  let cs := cs.dropWhile isSpaceOrTab
  let (negative, cs) := match cs with
    | '-' :: r => (true, r)
    | r => (false, r)
  let digits := cs.takeWhile Char.isDigit
  match (cs.dropWhile Char.isDigit).dropWhile isSpaceOrTab with
  | ']' :: rest =>
    let v := Text.digitsValue digits
    if digits.isEmpty then none
    else if negative then (if v ≤ positionBound then some (-(v : Int), rest) else none)
    else if v < positionBound then some ((v : Int), rest)
    else none
  | _ => none

/-- Reads the steps after the first name of a path: `.name` or `[n]`, up to the end. -/
def readSteps : Nat → List Char → Option (List Step)
  | _, [] => some []
  | 0, _ => none
  | fuel + 1, '.' :: r => do
    let (name, r) ← readName r
    let rest ← readSteps fuel r
    return .key name :: rest
  | fuel + 1, '[' :: r => do
    let (i, r) ← readPosition r
    let rest ← readSteps fuel r
    return .index i :: rest
  | _ + 1, _ => none

/-- The path a name stands for: a plain name and its steps, or else the name itself. -/
def pathOf (name : String) : List Step :=
  let cs := name.toList
  match readName cs with
  | some (first, rest) => match readSteps (rest.length + 1) rest with
    | some steps => .key first :: steps
    | none => [.key name]
  | none => [.key name]

/-- Sets `v` at `k` in an association list, a later value replacing an earlier one. -/
def setLast {β : Type} (k : String) (v : β) : List (String × β) → List (String × β)
  | [] => [(k, v)]
  | (k', v') :: rest => if k' = k then (k, v) :: rest else (k', v') :: setLast k v rest

/-- The entries of a document as they are set into the tree: the entries before the first
section as texts, then every section as a table of its lowered keys; a later entry or section of
exactly the same name replaces an earlier one. -/
def documentEntries (doc : List Ini.Section) : List (String × Node) :=
  doc.foldl (fun acc sec =>
    match sec.name with
    | none => sec.entries.foldl (fun acc (k, v) => setLast k (.text v) acc) acc
    | some name =>
      let entries := sec.entries.foldl
        (fun acc (k, v) => setLast (Text.lowerUnicode k) (Node.text v) acc) []
      setLast name (.table entries) acc) []

/-- The settings tree of a document: each entry set at the path of its lowered name. -/
def treeOf (doc : List Ini.Section) : List (String × Node) :=
  Node.entriesOf ((documentEntries doc).foldl
    (fun root (k, v) => Node.setPath (pathOf (Text.lowerUnicode k)) v root) (.table []))

/-- Why loading settings failed. -/
inductive LoadError where
  /-- The document could not be read; `file` names the file it came from. -/
  | unreadable (error : Ini.ParseError) (file : Option String)
  /-- A value of the wrong kind: what was found, what was expected, the key, and the file. -/
  | wrongType (found expected : String) (key : String) (file : Option String)
  /-- Any other failure, as text. -/
  | other (message : String)
deriving DecidableEq, Repr

namespace LoadError

/-- The text of a loading error. -/
def message : LoadError → String
  | .unreadable e file => e.text ++ (match file with | some f => " in " ++ f | none => "")
  | .wrongType found expected key file =>
    "invalid type: " ++ found ++ ", expected " ++ expected ++
      (if key.isEmpty then "" else " for key " ++ String.ofList [Char.ofNat 96] ++ key ++
        String.ofList [Char.ofNat 96]) ++
      (match file with | some f => " in " ++ f | none => "")
  | .other m => m

/-- Adds the enclosing name to the key of an error, joined by a dot unless the key is empty or
starts with a position. -/
def within (part : String) : LoadError → LoadError
  | .wrongType found expected key file =>
    .wrongType found expected
      (if key.isEmpty then part else if key.startsWith "[" then part ++ key else part ++ "." ++ key)
      file
  | e => e

/-- Adds the enclosing position to the key of an error. -/
def atPosition (pos : Nat) : LoadError → LoadError
  | .wrongType found expected key file =>
    .wrongType found expected ("[" ++ Nat.repr pos ++ "]" ++ key) file
  | e => e

end LoadError

/-- How a found text is shown in an error. -/
def foundText (s : String) : String := "string " ++ Text.quote s

/-- How a node other than a text is shown in an error. -/
def foundShape : Node → String
  | .text s => foundText s
  | .table _ => "map"
  | .array _ => "sequence"
  | .nil => "unit value"

/-- The error for a node of the wrong kind: only a text names the file it came from. -/
def mismatch (file : Option String) (n : Node) (expected : String) : LoadError :=
  match n with
  | .text s => .wrongType (foundText s) expected "" file
  | _ => .wrongType (foundShape n) expected "" none

/-- Reads an unsigned 64-bit integer. -/
def readUnsigned (file : Option String) : Node → Except LoadError Nat
  | .text s =>
    let l := Text.lowerUnicode s
    if l == "true" || l == "on" || l == "yes" then .ok 1
    else if l == "false" || l == "off" || l == "no" then .ok 0
    else match Text.readWord s with
      | some n => .ok n
      | none => .error (mismatch file (.text s) "an integer")
  | n => .error (mismatch file n "an integer")

/-- Reads an unsigned 16-bit integer. -/
def readShort (file : Option String) (n : Node) : Except LoadError Nat := do
  let v ← readUnsigned file n
  if v < 65536 then return v
  throw (.wrongType ("64-bit unsigned integer " ++ String.ofList [Char.ofNat 96] ++ Nat.repr v ++
    String.ofList [Char.ofNat 96]) "an unsigned 16 bit integer" "" none)

/-- Reads a truth value; a text that is none is shown lowered. -/
def readBool (file : Option String) : Node → Except LoadError Bool
  | .text s =>
    let l := Text.lowerUnicode s
    if l == "1" || l == "true" || l == "on" || l == "yes" then .ok true
    else if l == "0" || l == "false" || l == "off" || l == "no" then .ok false
    else .error (mismatch file (.text l) "a boolean")
  | n => .error (mismatch file n "a boolean")

/-- Reads a text. -/
def readText (file : Option String) : Node → Except LoadError String
  | .text s => .ok s
  | n => .error (mismatch file n "a string")

/-- Reads an optional text: the empty value is none. -/
def readOptionalText (file : Option String) : Node → Except LoadError (Option String)
  | .nil => .ok none
  | n => some <$> readText file n

/-- The error for a backend that is neither a name nor a table of one key. -/
def backendShapeError : LoadError :=
  .other "value of enum CacheBackendKind should be represented by either string or table with exactly one key"

/-- Reads a backend kind by name, in any case. -/
def backendNamed (s : String) : Except LoadError BackendKind :=
  if Text.lowerUnicode s == "memory" then .ok .memory
  else .error (.other ("enum CacheBackendKind does not have variant constructor " ++ s))

/-- Reads a backend kind: a name, or a table whose one key is the name. -/
def readBackend : Node → Except LoadError BackendKind
  | .text s => backendNamed s
  | .table [(name, _)] => backendNamed name
  | _ => .error backendShapeError

/-- Where the fields of a section come from: a table, by name, or a sequence, by position. -/
inductive Fields where
  /-- The fields of a table, by name. -/
  | named (entries : List (String × Node))
  /-- The items of a sequence, the fields in order. -/
  | positional (items : List Node)

/-- Reads field number `pos`, named `name`, when present. -/
def Fields.read {α : Type} (fs : Fields) (pos : Nat) (name : String)
    (read : Node → Except LoadError α) (fallback : α) : Except LoadError α :=
  match fs with
  | .named entries => match entries.lookup name with
    | some n => (read n).mapError (LoadError.within name)
    | none => .ok fallback
  | .positional items => match items[pos]? with
    | some n => (read n).mapError (LoadError.atPosition pos)
    | none => .ok fallback

/-- The fields of a section, or the error for a section of the wrong kind. -/
def sectionFields (structName : String) : Option Node → Except LoadError Fields
  | some (.table es) => .ok (.named es)
  | some (.array xs) => .ok (.positional xs)
  | some (.text s) => .error (.other ("invalid type: " ++ foundText s ++ ", expected struct " ++ structName))
  | some .nil => .error (.other ("invalid type: unit value, expected struct " ++ structName))
  | none => .ok (.named [])

/-- Reads the settings tree, without filling gaps. -/
def readSettings (file : Option String) (root : List (String × Node)) : Except LoadError Settings := do
  let d : Settings := {}
  let g ← sectionFields "GlobalConfig" (root.lookup "global")
  let global : GlobalSettings ← (do
    let wc ← g.read 0 "worker_connections" (readShort file) d.global.workerConnections
    let ll ← g.read 1 "log_level" (readText file) d.global.logLevel
    return ({ workerConnections := wc, logLevel := ll } : GlobalSettings)).mapError (LoadError.within "global")
  let h ← sectionFields "HttpConfig" (root.lookup "http")
  let http : HttpSettings ← (do
    let listen ← h.read 0 "listen" (readText file) d.http.listen
    let keepalive ← h.read 1 "keepalive" (readBool file) d.http.keepalive
    let body ← h.read 2 "max_request_body_bytes" (readUnsigned file) d.http.maxRequestBodyBytes
    return ({ listen := listen, keepalive := keepalive, maxRequestBodyBytes := body } : HttpSettings)).mapError (LoadError.within "http")
  let c ← sectionFields "CacheConfig" (root.lookup "cache")
  let cache : CacheSettings ← (do
    let enabled ← c.read 0 "enabled" (readBool file) d.cache.enabled
    let backend ← c.read 1 "backend" readBackend d.cache.backend
    let maxEntries ← c.read 2 "max_entries" (readUnsigned file) d.cache.maxEntries
    let interval ← c.read 3 "sweep_interval_secs" (readUnsigned file) d.cache.sweepIntervalSecs
    let grace ← c.read 4 "sweep_grace_secs" (readUnsigned file) d.cache.sweepGraceSecs
    let admin ← c.read 5 "admin_path" (readOptionalText file) d.cache.adminPath
    return (⟨enabled, backend, maxEntries, interval, grace, admin⟩ : CacheSettings)).mapError (LoadError.within "cache")
  return { global := global, http := http, cache := cache }

/-- Loads settings from INI text; `file` names the file the text came from, if any. -/
def load (file : Option String) (text : String) : Except LoadError Settings :=
  match Ini.parse text with
  | .error e => .error (.unreadable e file)
  | .ok doc => (readSettings file (treeOf doc)).map Settings.withDefaults

/-- Settings from a file that may be missing: a missing file gives the defaults. -/
def loadFile (file : String) (contents : Option String) : Except LoadError Settings :=
  load (some file) (contents.getD "")

/-- What loading a file with a fallback produced: the settings used and the report written for
the operator. -/
structure Fallback where
  /-- The settings in force. -/
  settings : Settings
  /-- The text written to the error stream. -/
  notice : String

/-- Loads a file, falling back to the defaults when it does not load or does not validate, and
says why on the error stream; warnings alone keep the loaded settings. -/
def loadFileOrDefault (file : String) (contents : Option String) : Fallback :=
  let fallbackLine := "➡️  Using default config(in-memory)...\n"
  match loadFile file contents with
  | .ok s =>
    let r := s.validate
    if !r.errors.isEmpty then
      ⟨Settings.defaults, "⚠️  Invalid config in '" ++ file ++ "':\n" ++ r.format ++ "\n" ++
        fallbackLine⟩
    else if !r.warnings.isEmpty then
      ⟨s, "⚠️  Config warnings in '" ++ file ++ "':\n" ++ r.format ++ "\n"⟩
    else ⟨s, ""⟩
  | .error e =>
    ⟨Settings.defaults, "⚠️  Error reading config'" ++ file ++ "': " ++ e.message ++ "\n" ++
      fallbackLine⟩

end Config
end ResponseCache
