import ResponseCache.Text.Blank
import ResponseCache.Text.Ascii
import ResponseCache.Http.Header
/-!
# Cache-Control directives

Of Cache-Control, the cache acts on `max-age`, `no-store` and `no-cache`, named in any case.
Every line that reads as text is split on commas. A `max-age` argument is read after trimming
blanks and then double quotes from both ends, as an unsigned 64-bit decimal; the last `max-age`
decides, and one whose argument does not read leaves no max-age at all.

When an entry is served, its Cache-Control lines advertise the seconds it has left: every
`max-age=` element is replaced by the remaining time, and one is appended when there was none.
-/

namespace ResponseCache
namespace Freshness

/-- The Cache-Control directives the cache acts on. -/
structure Directives where
  /-- The freshness lifetime in seconds, if one was given and read. -/
  maxAge : Option Nat := none
  /-- The response must not be stored. -/
  noStore : Bool := false
  /-- The response must be revalidated before each use. -/
  noCache : Bool := false
deriving DecidableEq, Repr

namespace Directives

/-- Drops every double quote at either end of a character list. -/
def trimQuotes (cs : List Char) : List Char :=
  ((cs.dropWhile (· == '"')).reverse.dropWhile (· == '"')).reverse

/-- Applies one directive to the directives read so far. -/
def apply (d : Directives) (directive : String) : Directives :=
  let directive := Text.trim directive
  let (name, arg) := match Text.splitOnce '=' directive with
    | some (n, v) => (Text.trim n, some (String.ofList (trimQuotes (Text.trimList v.toList))))
    | none => (directive, none)
  if Text.eqIgnoreCase name "max-age" then { d with maxAge := arg.bind Text.readWord }
  else if Text.eqIgnoreCase name "no-store" then { d with noStore := true }
  else if Text.eqIgnoreCase name "no-cache" then { d with noCache := true }
  else d

/-- Reads the directives of Cache-Control lines; `none` when no line reads as text. -/
def ofLines (lines : List String) : Option Directives :=
  if lines.isEmpty then none
  else some ((lines.flatMap (Text.splitAll ',')).foldl apply {})

/-- Reads the directives of a header list. -/
def ofHeaders (hs : Http.Headers) : Option Directives :=
  ofLines (hs.texts Http.HeaderName.cacheControl)

/-- The lifetime to store a response for; `none` when it must not be stored. -/
def storableTtl (d : Directives) : Option Nat :=
  if d.noStore || d.noCache then none else d.maxAge

end Directives

/-- Whether an element of a Cache-Control value is a `max-age=` directive. -/
def isMaxAgeElement (part : String) : Bool :=
  match Text.splitOnce '=' part with
  | some (name, _) => Text.eqIgnoreCase (Text.trim name) "max-age"
  | none => false

/-- Rewrites a Cache-Control value to advertise `remaining` seconds: empty elements are dropped,
every `max-age=` element becomes `max-age=remaining`, one is appended when there was none, and
the elements are joined with `", "`. -/
def rewriteMaxAge (value : String) (remaining : Nat) : String :=
  let fresh := "max-age=" ++ Nat.repr remaining
  let parts := ((Text.splitAll ',' value).map Text.trim).filter (!·.isEmpty)
  let rewritten := parts.map fun p => if isMaxAgeElement p then fresh else p
  let parts := if parts.any isMaxAgeElement then rewritten else rewritten ++ [fresh]
  String.intercalate ", " parts

example : rewriteMaxAge "public, Max-Age=5,," 3 = "public, max-age=3" ∧
    rewriteMaxAge "" 0 = "max-age=0" := by decide

end Freshness
end ResponseCache
