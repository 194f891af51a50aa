import ResponseCache.Media.Type
import ResponseCache.Cache.Vary
import ResponseCache.Cache.Captured
/-!
# Cache entries

An entry is one stored representation of one resource. It is identified within its resource by
its variant key, the media type together with the vary snapshot, and among all entries by a
sequence number given when it was stored.

Times are unsigned 64-bit seconds. An entry expires at its creation time plus its lifetime,
saturating at the greatest word, is expired from that instant on, and has the difference, or
zero, left before then.
-/

namespace ResponseCache
namespace Cache

/-- Saturating addition of 64-bit words. -/
def addSat (a b : Nat) : Nat := min (a + b) Text.wordMax

/-- Wrapping addition of 64-bit words. -/
def addWrap (a b : Nat) : Nat := (a + b) % Text.wordBound

/-- What distinguishes the variants of one resource. -/
structure VariantKey where
  /-- The media type of the representation. -/
  media : Media.MediaType
  /-- The request values it was chosen for. -/
  vary : VarySnapshot
deriving DecidableEq, Repr

namespace VariantKey

/-- Orders keys by media type, then by vary snapshot. -/
def compare (a b : VariantKey) : Ordering :=
  (Ord.compare a.media.mainType b.media.mainType).then
    ((Ord.compare a.media.subtype b.media.subtype).then (a.vary.compare b.vary))

end VariantKey

/-- One stored representation. -/
structure Entry where
  /-- The key of the resource. -/
  uri : String
  /-- The media type of the body. -/
  media : Media.MediaType
  /-- The stored response headers. -/
  headers : CapturedHeaders
  /-- The body. -/
  body : List UInt8
  /-- The entity tag value. -/
  etag : String
  /-- The freshness lifetime in seconds. -/
  maxAge : Nat
  /-- When the entry stops being fresh. -/
  expiresAt : Nat
  /-- The request values the representation was chosen for. -/
  vary : VarySnapshot
  /-- The order in which it was stored. -/
  sequence : Nat
deriving DecidableEq, Repr

namespace Entry

/-- Builds an entry created at `createdAt`: it expires `maxAge` seconds later, saturating. -/
def create (uri : String) (media : Media.MediaType) (headers : CapturedHeaders)
    (body : List UInt8) (etag : String) (maxAge createdAt : Nat) (vary : VarySnapshot)
    (sequence : Nat) : Entry :=
  ⟨uri, media, headers, body, etag, maxAge, addSat createdAt maxAge, vary, sequence⟩

/-- The variant key. -/
def key (e : Entry) : VariantKey := ⟨e.media, e.vary⟩

/-- Whether the entry is expired at `now`. -/
def isExpired (e : Entry) (now : Nat) : Bool := e.expiresAt ≤ now

/-- The seconds left at `now`, zero once expired. -/
def remaining (e : Entry) (now : Nat) : Nat := e.expiresAt - now

theorem remaining_eq_zero_iff (e : Entry) (now : Nat) :
    e.remaining now = 0 ↔ e.isExpired now = true := by
  simp [remaining, isExpired]
  omega

end Entry

end Cache
end ResponseCache
