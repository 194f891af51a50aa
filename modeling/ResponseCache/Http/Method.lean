import ResponseCache.Text.Ascii
/-!
# Request methods

A method is one of the nine methods of RFC 9110 and RFC 5789 or the QUERY method, spelled in
capitals, or an extension method: any other non-empty token. Spelling is case-sensitive, so
`get` is an extension method. The safe methods are GET, HEAD, OPTIONS, TRACE and QUERY; an
extension method is never safe.

The cache answers GET and HEAD from stored entries, stores only GET responses, and treats every
unsafe method as one that may change the resource.
-/

namespace ResponseCache
namespace Http

/-- A request method. -/
inductive Method where
  /-- GET. -/
  | get
  /-- HEAD. -/
  | head
  /-- POST. -/
  | post
  /-- PUT. -/
  | put
  /-- DELETE. -/
  | delete
  /-- OPTIONS. -/
  | options
  /-- TRACE. -/
  | trace
  /-- CONNECT. -/
  | connect
  /-- PATCH. -/
  | patch
  /-- QUERY: a safe request whose body says what to look up. -/
  | query
  /-- A method outside the registered ten, kept as written. -/
  | extension (name : String)
deriving DecidableEq, Repr

namespace Method

/-- The registered methods with their spellings. -/
def registered : List (String × Method) :=
  [("GET", .get), ("HEAD", .head), ("POST", .post), ("PUT", .put), ("DELETE", .delete),
   ("OPTIONS", .options), ("TRACE", .trace), ("CONNECT", .connect), ("PATCH", .patch),
   ("QUERY", .query)]

/-- Reads a method: a registered spelling, or else any non-empty token as an extension. -/
def ofText? (s : String) : Option Method :=
  match registered.lookup s with
  | some m => some m
  | none => if Text.isToken s then some (.extension s) else none

/-- The spelling of a method. -/
def text : Method → String
  | .get => "GET"
  | .head => "HEAD"
  | .post => "POST"
  | .put => "PUT"
  | .delete => "DELETE"
  | .options => "OPTIONS"
  | .trace => "TRACE"
  | .connect => "CONNECT"
  | .patch => "PATCH"
  | .query => "QUERY"
  | .extension name => name

/-- Safe methods promise not to change the resource: GET, HEAD, OPTIONS, TRACE and QUERY. -/
def isSafe : Method → Bool
  | .get | .head | .options | .trace | .query => true
  | _ => false

/-- Methods answered from the cache: GET and HEAD. -/
def isCacheable : Method → Bool
  | .get | .head => true
  | _ => false

/-- Methods whose response may be stored: GET only, since a HEAD response has no body. -/
def isStorable : Method → Bool
  | .get => true
  | _ => false

/-- Methods that may change the resource and so invalidate its stored variants. -/
def invalidates (m : Method) : Bool := !m.isSafe

theorem isSafe_of_isCacheable {m : Method} (h : m.isCacheable = true) : m.isSafe = true := by
  cases m <;> simp_all [isCacheable, isSafe]

theorem isCacheable_of_isStorable {m : Method} (h : m.isStorable = true) :
    m.isCacheable = true := by
  cases m <;> simp_all [isCacheable, isStorable]

example : ofText? "get" = some (.extension "get") ∧ ofText? "GET" = some .get ∧
    ofText? "" = none ∧ ofText? "G ET" = none := by decide

end Method

end Http
end ResponseCache
