import ResponseCache.Freshness.Directives
import ResponseCache.Http.Header
/-!
# Captured response headers

An entry keeps the response's header lines that read as text, except the connection-level ones
(`connection`, `keep-alive`, `proxy-connection`, `transfer-encoding`, `upgrade`) and
`content-length`, grouped by name in ascending order, with the lines of a name in order. Each
line is tagged with the role it plays when the entry is served again.

Serving replays the lines by name, with every Cache-Control line rewritten to advertise the
seconds the entry has left. A 304 replays only Cache-Control, ETag and Vary.
-/

namespace ResponseCache
namespace Cache

/-- The role a stored header line plays when the entry is served. -/
inductive HeaderKind where
  /-- Cache-Control: its max-age is rewritten when served. -/
  | cacheControl
  /-- Cookie. -/
  | cookie
  /-- ETag. -/
  | entityTag
  /-- Set-Cookie. -/
  | newCookie
  /-- Any other header. -/
  | other
deriving DecidableEq, Repr

namespace HeaderKind

/-- The role of a header name. -/
def classify (name : Http.HeaderName) : HeaderKind :=
  if name.text == "cache-control" then .cacheControl
  else if name.text == "cookie" then .cookie
  else if name.text == "etag" then .entityTag
  else if name.text == "set-cookie" then .newCookie
  else .other

/-- The name of a role. -/
def label : HeaderKind → String
  | .cacheControl => "CacheControl"
  | .cookie => "Cookie"
  | .entityTag => "EntityTag"
  | .newCookie => "NewCookie"
  | .other => "Other"

/-- Whether a 304 carries a line of this role under this name: Cache-Control, ETag and Vary. -/
def isValidator (kind : HeaderKind) (name : String) : Bool :=
  match kind with
  | .cacheControl | .entityTag => true
  | .cookie | .newCookie => false
  | .other => name == "vary"

end HeaderKind

/-- One stored header line. -/
structure CapturedLine where
  /-- Its role. -/
  kind : HeaderKind
  /-- Its text. -/
  value : String
deriving DecidableEq, Repr

namespace CapturedLine

/-- The text to send when the entry has `remaining` seconds left. -/
def replay (line : CapturedLine) (remaining : Nat) : String :=
  match line.kind with
  | .cacheControl => Freshness.rewriteMaxAge line.value remaining
  | _ => line.value

end CapturedLine

/-- Header names never kept in an entry. -/
def hopByHop : List String :=
  ["connection", "keep-alive", "proxy-connection", "transfer-encoding", "upgrade",
   "content-length"]

/-- Stored response headers: lines grouped by name, names ascending. -/
structure CapturedHeaders where
  /-- The groups, in ascending order of name; no group is empty. -/
  groups : List (String × List CapturedLine) := []
deriving DecidableEq, Repr

namespace CapturedHeaders

/-- Adds a line after the others of its name, keeping the names ordered. -/
def push (name : String) (line : CapturedLine) :
    List (String × List CapturedLine) → List (String × List CapturedLine)
  | [] => [(name, [line])]
  | (n, ls) :: rest =>
    if name < n then (name, [line]) :: (n, ls) :: rest
    else if name = n then (n, ls ++ [line]) :: rest
    else (n, ls) :: push name line rest

/-- Keeps the lines of a response that an entry stores. -/
def capture (hs : Http.Headers) : CapturedHeaders :=
  ⟨hs.fields.foldl (fun acc (name, value) =>
    if hopByHop.contains name.text then acc
    else match value.text? with
      | none => acc
      | some text => push name.text ⟨HeaderKind.classify name, text⟩ acc) []⟩

/-- The lines stored under exactly this name. -/
def get? (c : CapturedHeaders) (name : String) : Option (List CapturedLine) :=
  c.groups.lookup name

/-- Whether nothing is stored. -/
def isEmpty (c : CapturedHeaders) : Bool := c.groups.isEmpty

/-- Replays the lines that `keep` selects, by name, with `remaining` seconds left. -/
def renderFiltered (c : CapturedHeaders) (remaining : Nat)
    (keep : String → HeaderKind → Bool) : Http.Headers :=
  c.groups.foldl (fun out (name, lines) =>
    match Http.HeaderName.ofText? name with
    | none => out
    | some hn =>
      lines.foldl (fun out line =>
        if !keep name line.kind then out
        else match Http.HeaderValue.ofBytes? (Http.HeaderValue.ofText (line.replay remaining)).bytes with
          | none => out
          | some v => out.append hn v) out) Http.Headers.empty

/-- Every stored line, as sent with a 200 served from the cache. -/
def render (c : CapturedHeaders) (remaining : Nat) : Http.Headers :=
  c.renderFiltered remaining fun _ _ => true

/-- The validator and cache lines, as sent with a 304. -/
def renderValidators (c : CapturedHeaders) (remaining : Nat) : Http.Headers :=
  c.renderFiltered remaining fun name kind => kind.isValidator name

end CapturedHeaders

end Cache
end ResponseCache
