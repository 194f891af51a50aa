import ResponseCache.Cache.Entry
/-!
# The in-memory store

The store holds at most one entry per resource key and variant key, a count of its entries, and,
for a store bounded to `maxEntries` entries (0 means unbounded), an eviction index: the slots of
the entries ordered by sequence, and ordered by expiry time. All three change together.

After an add makes a bounded store too large, entries are evicted one at a time until it fits.
The victim is the entry that expired first, if any entry has expired by the store's clock, and
otherwise the entry stored first; the entry just added may itself be the victim.

Purging at `now` with a grace period drops the entries that expired at or before `now - grace`
(zero when the grace is longer) and counts them.
-/

namespace ResponseCache
namespace Cache

/-- Where an entry stands in eviction order. -/
structure Slot where
  /-- The entry's sequence number. -/
  sequence : Nat
  /-- The entry's resource key. -/
  uri : String
  /-- The entry's variant key. -/
  key : VariantKey
deriving DecidableEq, Repr

namespace Slot

/-- The slot of an entry. -/
def ofEntry (e : Entry) : Slot := ⟨e.sequence, e.uri, e.key⟩

/-- Orders slots by sequence, then resource key, then variant key. -/
def compare (a b : Slot) : Ordering :=
  (Ord.compare a.sequence b.sequence).then ((Ord.compare a.uri b.uri).then (a.key.compare b.key))

end Slot

/-- Inserts into a list kept ascending by `cmp`, unless an equal member is there already. -/
def insertOrdered {α : Type} (cmp : α → α → Ordering) (x : α) : List α → List α
  | [] => [x]
  | y :: ys =>
    match cmp x y with
    | .lt => x :: y :: ys
    | .eq => y :: ys
    | .gt => y :: insertOrdered cmp x ys

/-- The eviction order of a bounded store. -/
structure EvictionIndex where
  /-- Slots by ascending sequence. -/
  bySequence : List Slot := []
  /-- Slots by ascending expiry time, then by slot. -/
  byExpiry : List (Nat × Slot) := []
deriving DecidableEq, Repr

namespace EvictionIndex

/-- Orders expiry pairs by time, then by slot. -/
def compareTimed (a b : Nat × Slot) : Ordering :=
  (Ord.compare a.1 b.1).then (a.2.compare b.2)

/-- Records an entry. -/
def insert (ix : EvictionIndex) (e : Entry) : EvictionIndex :=
  ⟨insertOrdered Slot.compare (Slot.ofEntry e) ix.bySequence,
   insertOrdered compareTimed (e.expiresAt, Slot.ofEntry e) ix.byExpiry⟩

/-- Forgets an entry. -/
def erase (ix : EvictionIndex) (e : Entry) : EvictionIndex :=
  ⟨ix.bySequence.filter (· != Slot.ofEntry e),
   ix.byExpiry.filter (· != (e.expiresAt, Slot.ofEntry e))⟩

/-- The slot to evict at `now`: the earliest expiry if it has passed, else the least sequence. -/
def victim (ix : EvictionIndex) (now : Nat) : Option Slot :=
  match ix.byExpiry with
  | (t, slot) :: _ => if t ≤ now then some slot else ix.bySequence.head?
  | [] => ix.bySequence.head?

end EvictionIndex

/-- The in-memory store. -/
structure Store where
  /-- The stored entries, at most one per resource key and variant key. -/
  entries : List Entry := []
  /-- How many entries are stored. -/
  count : Nat := 0
  /-- The bound on the number of entries; 0 for none. -/
  maxEntries : Nat := 0
  /-- The eviction order. -/
  index : EvictionIndex := {}
  /-- The time the store's own clock reads when it picks a victim: `none` when it shares the
  cache's clock, `some t` for a clock fixed at `t`. -/
  ownClock : Option Nat := none
deriving DecidableEq, Repr

namespace Store

/-- An empty store with the given bound, sharing the cache's clock. -/
def bounded (maxEntries : Nat) : Store := { maxEntries }

/-- Whether an entry has this resource key and variant key. -/
def sameVariant (uri : String) (key : VariantKey) (e : Entry) : Bool := e.uri == uri && e.key == key

/-- Takes entries out of the index and the count. -/
def forget (s : Store) (gone : List Entry) : Store :=
  { s with index := gone.foldl EvictionIndex.erase s.index, count := s.count - gone.length }

/-- Removes the variant at a slot if it is still the one stored with that sequence. -/
def removeSlot (s : Store) (slot : Slot) : Store :=
  match s.entries.find? (sameVariant slot.uri slot.key) with
  | some e =>
    if e.sequence = slot.sequence then
      { s.forget [e] with entries := s.entries.filter (!sameVariant slot.uri slot.key ·) }
    else s
  | none => s

/-- Evicts victims while the store holds more than its bound; each round removes one entry, so
`fuel` rounds of at least the count suffice. -/
def evict (now : Nat) : Nat → Store → Store
  | 0, s => s
  | fuel + 1, s =>
    if s.count > s.maxEntries then
      match s.index.victim now with
      | some slot => evict now fuel (s.removeSlot slot)
      | none => s
    else s

/-- Stores an entry at time `now`, replacing the variant with the same keys, then evicts while a
bounded store is too large. -/
def add (s : Store) (now : Nat) (e : Entry) : Store :=
  let previous := s.entries.find? (sameVariant e.uri e.key)
  let entries := match previous with
    | some _ => s.entries.map fun x => if sameVariant e.uri e.key x then e else x
    | none => s.entries ++ [e]
  let index := match previous with
    | some p => (s.index.erase p).insert e
    | none => s.index.insert e
  let count := match previous with
    | some _ => s.count
    | none => s.count + 1
  let s := { s with entries, index, count }
  if s.maxEntries = 0 then s
  else evict (s.ownClock.getD now) s.count s

/-- Every variant stored under a resource key. -/
def get (s : Store) (uri : String) : List Entry := s.entries.filter (·.uri == uri)

/-- Drops every variant of a resource key, with how many there were. -/
def remove (s : Store) (uri : String) : Store × Nat :=
  let gone := s.get uri
  ({ s.forget gone with entries := s.entries.filter (·.uri != uri) }, gone.length)

/-- Drops everything. -/
def clear (s : Store) : Store := { s.forget s.entries with entries := [] }

/-- Drops the entries that expired at or before `now - grace`, with how many there were. -/
def purgeExpired (s : Store) (now grace : Nat) : Store × Nat :=
  let cutoff := now - grace
  let gone := s.entries.filter (·.isExpired cutoff)
  ({ s.forget gone with entries := s.entries.filter (!·.isExpired cutoff) }, gone.length)

/-- How many entries are stored. -/
def len (s : Store) : Nat := s.count

end Store

end Cache
end ResponseCache
