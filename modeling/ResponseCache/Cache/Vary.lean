import ResponseCache.Text.Blank
import ResponseCache.Http.Header
/-!
# Vary snapshots

When a response names request headers in Vary, the values the request carried for each of them
are recorded with the stored variant. The values of a header are the comma-separated, trimmed,
non-empty elements of all its lines that read as text. A snapshot maps names to value lists,
ordered by name, one list per name.

A later request fits the variant when, for every recorded name, it carries all the recorded
values (more are allowed), or, where nothing was recorded, carries none.
-/

namespace ResponseCache
namespace Cache

/-- The values a header list carries for a name: the trimmed, non-empty comma-separated elements
of every line that reads as text. -/
def headerValues (hs : Http.Headers) (name : Http.HeaderName) : List String :=
  ((hs.texts name).flatMap (Text.splitAll ',')).map Text.trim |>.filter (!·.isEmpty)

/-- Recorded request values by header name, ordered by name with one entry per name. -/
structure VarySnapshot where
  /-- The entries, in ascending order of name. -/
  entries : List (String × List String) := []
deriving DecidableEq, Repr

namespace VarySnapshot

/-- Sets the values of a name, keeping the entries ordered. -/
def set (values : List String) (name : String) :
    List (String × List String) → List (String × List String)
  | [] => [(name, values)]
  | (n, vs) :: rest =>
    if name < n then (name, values) :: (n, vs) :: rest
    else if name = n then (name, values) :: rest
    else (n, vs) :: set values name rest

/-- A snapshot from name-value pairs in any order; a later pair for a name wins. -/
def ofList (pairs : List (String × List String)) : VarySnapshot :=
  ⟨pairs.foldl (fun acc p => set p.2 p.1 acc) []⟩

/-- Records the values a request carries for each of the names. -/
def capture (hs : Http.Headers) (names : List Http.HeaderName) : VarySnapshot :=
  ofList (names.map fun n => (n.text, headerValues hs n))

/-- Whether a request may differ, on some recorded header, from the one that created the
variant: a recorded name that is not a header name, a header recorded without values that the
request now carries, or a recorded value the request no longer carries. -/
def mayVary (snap : VarySnapshot) (hs : Http.Headers) : Bool :=
  snap.entries.any fun (name, stored) =>
    match Http.HeaderName.ofText? name with
    | none => true
    | some n =>
      let current := headerValues hs n
      if stored.isEmpty then !current.isEmpty
      else !stored.all fun v => current.contains v

/-- Lexicographic comparison of lists by a comparison of their members. -/
def compareLex {α : Type} (cmp : α → α → Ordering) : List α → List α → Ordering
  | [], [] => .eq
  | [], _ :: _ => .lt
  | _ :: _, [] => .gt
  | a :: as, b :: bs => (cmp a b).then (compareLex cmp as bs)

/-- Orders snapshots lexicographically: by name, then by values, entry by entry. -/
def compare (a b : VarySnapshot) : Ordering :=
  compareLex (fun x y => (Ord.compare x.1 y.1).then (compareLex Ord.compare x.2 y.2))
    a.entries b.entries

end VarySnapshot

end Cache
end ResponseCache
