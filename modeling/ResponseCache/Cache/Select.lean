import ResponseCache.Media.Accept
import ResponseCache.Cache.Entry
/-!
# Choosing a stored variant

Only variants that the request's Accept rates at its highest quality are eligible, so a lower
rated variant is never served while the handler might produce a preferred one. Eligible
variants are ranked by the specificity of the deciding range, then by how recently they were
stored, and the first whose recorded vary values fit the request is chosen.
-/

namespace ResponseCache
namespace Cache

/-- The rank of an eligible variant: quality, specificity and sequence, compared in that order. -/
def rankKey (p : Media.Preference) (e : Entry) : Nat × Nat × Nat := (p.quality, p.specificity, e.sequence)

/-- Whether rank `a` is at least rank `b`, lexicographically. -/
def rankGe (a b : Nat × Nat × Nat) : Bool :=
  a.1 > b.1 || (a.1 == b.1 && (a.2.1 > b.2.1 || (a.2.1 == b.2.1 && a.2.2 ≥ b.2.2)))

/-- The eligible variants with their preference, best first; equal ranks keep their order. -/
def ranked (candidates : List Entry) (accept : Media.Accept) : List (Media.Preference × Entry) :=
  let top := accept.topQuality
  let eligible := candidates.filterMap fun e =>
    match accept.preference e.media with
    | some p => if p.quality = top then some (p, e) else none
    | none => none
  eligible.mergeSort fun a b => rankGe (rankKey a.1 a.2) (rankKey b.1 b.2)

/-- The variant to serve: the best ranked one whose vary values fit the request. -/
def selectVariant (candidates : List Entry) (accept : Media.Accept) (hs : Http.Headers) :
    Option Entry :=
  ((ranked candidates accept).map Prod.snd).find? fun e => !e.vary.mayVary hs

end Cache
end ResponseCache
