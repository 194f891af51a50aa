import ResponseCache.Cache.Entry
import ResponseCache.Validation.Condition
/-!
# Deciding how to answer

Given the chosen variant and the request's conditions, a request is a miss without a variant,
goes to the handler when the variant has expired, fails its precondition when If-Match does not
match the variant's tag strongly, is answered 304 when If-None-Match matches weakly, and is
served from the cache otherwise. If-Match is looked at before If-None-Match, as RFC 9110
section 13.2.2 orders them.

After an expired variant was computed again, the answer is still 304 when the fresh tag equals
the previous one and the client holds it.
-/

namespace ResponseCache
namespace Cache

/-- Why the handler has to run. -/
inductive Revalidation where
  /-- Nothing suitable is stored. -/
  | miss
  /-- The stored variant expired; it had this tag. -/
  | expired (previousEtag : String)
  /-- If-Match did not hold for the stored variant. -/
  | precondition
deriving DecidableEq, Repr

/-- How to answer a request. -/
inductive Outcome where
  /-- Answer 304 from this entry. -/
  | notModified (e : Entry)
  /-- Answer 200 from this entry. -/
  | cached (e : Entry)
  /-- Ask the handler. -/
  | delegate (reason : Revalidation)
deriving DecidableEq, Repr

namespace Outcome

/-- The name of an outcome. -/
def label : Outcome → String
  | .notModified _ => "not_modified"
  | .cached _ => "hit"
  | .delegate .miss => "miss"
  | .delegate (.expired _) => "expired"
  | .delegate .precondition => "precondition"

end Outcome

/-- Decides how to answer a request at `now`, given the chosen variant. -/
def evaluate (entry : Option Entry) (conds : Validation.Conditions) (now : Nat) : Outcome :=
  match entry with
  | none => .delegate .miss
  | some e =>
    if e.isExpired now then .delegate (.expired e.etag)
    else if conds.matchFails e.etag then .delegate .precondition
    else if conds.noneMatch e.etag then .notModified e
    else .cached e

/-- After an expired variant was computed again: whether the client already holds it. -/
def notModifiedAfterRecompute (reason : Revalidation) (freshEtag : String)
    (conds : Validation.Conditions) : Bool :=
  match reason with
  | .expired previous => previous == freshEtag && conds.noneMatch freshEtag
  | .miss | .precondition => false

end Cache
end ResponseCache
