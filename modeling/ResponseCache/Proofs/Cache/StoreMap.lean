import ResponseCache.Proofs.Cache.StoreInvariant
import Mathlib.Data.Set.Card
/-!
# The store as a finite map

A coherent store stands for a finite map from resource key and variant key to entries, the entry
stored at each place. Every call of the store is an operation on that map: a lookup lists the
map's entries of one resource key, each once; an add puts the entry at its place, and when that
takes a bounded store over its bound, deletes the one entry the eviction rule picks; remove,
clear and purge delete the entries of a resource key, all entries, and the expired ones, and
remove and purge count what they delete; the count is the map's size, which a bound limits.

The main statement, `Store.refines_map`, says all this of every store a sequence of calls reaches.
-/

namespace ResponseCache
namespace Cache

/-- A map from resource key and variant key to the entry stored there. -/
abbrev CacheMap := String × VariantKey → Option Entry

namespace CacheMap

/-- Stores `e` at its place, replacing what was there. -/
def put (m : CacheMap) (e : Entry) : CacheMap := Function.update m e.mapKey (some e)

/-- Deletes the entry at a place. -/
def erase (m : CacheMap) (k : String × VariantKey) : CacheMap := Function.update m k none

/-- Keeps the entries that satisfy `P` and deletes the others. -/
def keep (m : CacheMap) (P : Entry → Prop) [DecidablePred P] : CacheMap :=
  fun k => (m k).filter fun x => decide (P x)

/-- The map with no entries. -/
def empty : CacheMap := fun _ => none

theorem keep_congr (m : CacheMap) {P Q : Entry → Prop} [DecidablePred P] [DecidablePred Q]
    (same : ∀ x, P x ↔ Q x) : m.keep P = m.keep Q := by
  funext k
  simp only [keep, same]

/-- How many entries satisfy `P`. -/
noncomputable def count (m : CacheMap) (P : Entry → Prop) : Nat :=
  Set.ncard {k | ∃ x, m k = some x ∧ P x}

/-- How many entries the map has. -/
noncomputable def size (m : CacheMap) : Nat := m.count fun _ => True

end CacheMap

namespace Store

/-- The map a store stands for: at each place, the entry stored there. -/
def view (s : Store) : CacheMap := fun k => s.entries.find? (sameVariant k.1 k.2)

variable {s : Store}

/-- In a store with one entry per place, the map holds exactly the stored entries, each at its
own place. -/
theorem view_eq_some (unique : UniqueKeys s.entries) {k : String × VariantKey} {x : Entry} :
    s.view k = some x ↔ x ∈ s.entries ∧ x.mapKey = k := by
  constructor
  · intro found
    exact ⟨List.mem_of_find?_eq_some found, sameVariant_iff.mp (List.find?_some found)⟩
  · rintro ⟨hx, rfl⟩
    exact unique.find?_eq hx

theorem view_mapKey_eq_some (unique : UniqueKeys s.entries) {x : Entry} :
    s.view x.mapKey = some x ↔ x ∈ s.entries := by
  rw [view_eq_some unique]
  exact and_iff_left rfl

theorem view_drop (unique : UniqueKeys s.entries) (keep : Entry → Bool) (gone : List Entry) :
    ({ s.forget gone with entries := s.entries.filter keep } : Store).view =
      s.view.keep fun x => keep x = true := by
  funext k
  apply Option.ext
  intro x
  rw [view_eq_some (unique.filter keep), CacheMap.keep, Option.filter_eq_some_iff,
    view_eq_some unique, List.mem_filter, decide_eq_true_eq]
  tauto

theorem view_insertEntry (unique : UniqueKeys s.entries) (e : Entry) :
    (s.insertEntry e).view = s.view.put e := by
  funext k
  apply Option.ext
  intro x
  rw [view_eq_some (insertEntry_unique unique e), mem_insertEntry, CacheMap.put]
  by_cases here : k = e.mapKey
  · subst here
    rw [Function.update_self, Option.some.injEq]
    constructor
    · rintro ⟨rfl | ⟨_, away⟩, place⟩
      · rfl
      · exact absurd place away
    · rintro rfl
      exact ⟨Or.inl rfl, rfl⟩
  · rw [Function.update_of_ne here, view_eq_some unique]
    constructor
    · rintro ⟨rfl | ⟨hx, _⟩, place⟩
      · exact absurd place.symm here
      · exact ⟨hx, place⟩
    · rintro ⟨hx, place⟩
      exact ⟨Or.inr ⟨hx, place ▸ here⟩, place⟩

theorem view_removeSlot (unique : UniqueKeys s.entries) {v : Entry} (hv : v ∈ s.entries) :
    (s.removeSlot (Slot.ofEntry v)).view = s.view.erase v.mapKey := by
  rw [removeSlot_ofEntry unique hv, view_drop unique]
  funext k
  apply Option.ext
  intro x
  rw [CacheMap.keep, Option.filter_eq_some_iff, CacheMap.erase, view_eq_some unique]
  by_cases here : k = v.mapKey
  · subst here
    simp only [Function.update_self, reduceCtorEq, iff_false, not_and, decide_eq_true_eq,
      Bool.not_eq_true', sameVariant_self_eq_false]
    rintro ⟨_, place⟩ away
    exact away place
  · rw [Function.update_of_ne here, view_eq_some unique]
    simp only [decide_eq_true_eq, Bool.not_eq_true', sameVariant_self_eq_false,
      and_iff_left_iff_imp]
    rintro ⟨_, rfl⟩
    exact here

theorem count_view (unique : UniqueKeys s.entries) (P : Entry → Prop) [DecidablePred P] :
    s.view.count P = (s.entries.filter fun x => decide (P x)).length := by
  have keys : {k | ∃ x, s.view k = some x ∧ P x} =
      (((s.entries.filter fun x => decide (P x)).map Entry.mapKey).toFinset : Set _) := by
    ext k
    simp only [Set.mem_ofPred_eq, List.coe_toFinset, List.mem_map, List.mem_filter,
      decide_eq_true_eq, view_eq_some unique]
    constructor
    · rintro ⟨x, ⟨hx, place⟩, holds⟩
      exact ⟨x, ⟨hx, holds⟩, place⟩
    · rintro ⟨x, ⟨hx, holds⟩, place⟩
      exact ⟨x, ⟨hx, place⟩, holds⟩
  rw [CacheMap.count, keys, Set.ncard_coe_finset, List.toFinset_card_of_nodup, List.length_map]
  exact (unique.filter _)

theorem size_view (unique : UniqueKeys s.entries) : s.view.size = s.entries.length := by
  rw [CacheMap.size, count_view unique]
  simp

theorem get_spec (unique : UniqueKeys s.entries) (uri : String) :
    (s.get uri).Nodup ∧ ∀ x, x ∈ s.get uri ↔ x.uri = uri ∧ s.view x.mapKey = some x := by
  refine ⟨unique.nodup.filter _, fun x => ?_⟩
  rw [get, List.mem_filter, view_mapKey_eq_some unique, beq_iff_eq, and_comm]

theorem size_put_view {s : Store} (consistent : s.Consistent) (e : Entry) :
    (s.view.put e).size = (s.insertEntry e).count := by
  rw [← view_insertEntry consistent.unique, size_view (insertEntry_unique consistent.unique e),
    insertEntry_count_eq consistent.count_eq]

theorem view_add_of_within {s : Store} (consistent : s.Consistent) {now : Nat} {e : Entry}
    (within : s.maxEntries = 0 ∨ (s.view.put e).size ≤ s.maxEntries) :
    (s.add now e).view = s.view.put e := by
  rw [size_put_view consistent] at within
  rw [add_of_within within, view_insertEntry consistent.unique]

/-- An add that takes a coherent bounded store over its bound puts the entry at its place and
deletes the one entry that the eviction rule picks at the store's clock. -/
theorem view_add_of_over {s : Store} (coherent : s.Coherent) {now : Nat} {e : Entry}
    (bounded : 0 < s.maxEntries) (overfull : s.maxEntries < (s.view.put e).size) :
    ∃ v : Entry, v.IsVictim (fun x => s.view.put e x.mapKey = some x) (s.ownClock.getD now) ∧
      (s.add now e).view = (s.view.put e).erase v.mapKey := by
  have consistent := coherent.toConsistent.insertEntry e
  rw [size_put_view coherent.toConsistent] at overfull
  obtain ⟨v, victim, added, _⟩ := coherent.add_of_over now bounded overfull
  have held : (fun x => s.view.put e x.mapKey = some x) = (· ∈ (s.insertEntry e).entries) := by
    funext x
    rw [← view_insertEntry coherent.unique, view_mapKey_eq_some consistent.unique]
  rw [held]
  refine ⟨v, victim, ?_⟩
  rw [added, view_removeSlot consistent.unique victim.holds, view_insertEntry coherent.unique]

/-- Removing a resource key deletes its entries from the map and counts them. -/
theorem view_remove (unique : UniqueKeys s.entries) (uri : String) :
    (s.remove uri).1.view = s.view.keep (·.uri ≠ uri) ∧
      (s.remove uri).2 = s.view.count (·.uri = uri) := by
  rw [remove_eq, view_drop unique, count_view unique]
  refine ⟨CacheMap.keep_congr _ fun x => by simp [bne], ?_⟩
  simp only [get, Bool.beq_eq_decide_eq]

theorem view_clear (unique : UniqueKeys s.entries) : s.clear.view = CacheMap.empty := by
  rw [clear_eq, view_drop unique]
  funext k
  simp [CacheMap.keep, CacheMap.empty]

/-- Purging deletes from the map the entries that expired at or before `now - grace`, zero when
the grace is longer, and counts them. -/
theorem view_purgeExpired (unique : UniqueKeys s.entries) (now grace : Nat) :
    (s.purgeExpired now grace).1.view = s.view.keep (fun x => ¬x.expiresAt ≤ now - grace) ∧
      (s.purgeExpired now grace).2 = s.view.count (·.expiresAt ≤ now - grace) := by
  rw [purgeExpired_eq, view_drop unique, count_view unique]
  exact ⟨CacheMap.keep_congr _ fun x => by simp [Entry.isExpired], rfl⟩

/-- How a store's calls act on the map it stands for. -/
structure RefinesMap (s : Store) : Prop where
  /-- A lookup lists the map's entries of the resource key, each once. -/
  get : ∀ uri, (s.get uri).Nodup ∧ ∀ x, x ∈ s.get uri ↔ x.uri = uri ∧ s.view x.mapKey = some x
  /-- An add that keeps the store within its bound, or to a store without one, puts the entry at
  its place, replacing only the entry stored there. -/
  add_within : ∀ now e, (s.maxEntries = 0 ∨ (s.view.put e).size ≤ s.maxEntries) →
    (s.add now e).view = s.view.put e
  /-- An add that takes a bounded store over its bound puts the entry at its place and deletes
  one entry: the one the eviction rule picks at the store's clock, maybe the new entry itself. -/
  add_over : ∀ now e, 0 < s.maxEntries → s.maxEntries < (s.view.put e).size →
    ∃ v : Entry, v.IsVictim (fun x => s.view.put e x.mapKey = some x) (s.ownClock.getD now) ∧
      (s.add now e).view = (s.view.put e).erase v.mapKey
  /-- Removing a resource key deletes its entries and counts them. -/
  remove : ∀ uri, (s.remove uri).1.view = s.view.keep (·.uri ≠ uri) ∧
    (s.remove uri).2 = s.view.count (·.uri = uri)
  /-- Clearing empties the map. -/
  clear : s.clear.view = CacheMap.empty
  /-- Purging deletes the entries expired at or before `now - grace` and counts them. -/
  purge : ∀ now grace,
    (s.purgeExpired now grace).1.view = s.view.keep (fun x => ¬x.expiresAt ≤ now - grace) ∧
      (s.purgeExpired now grace).2 = s.view.count (·.expiresAt ≤ now - grace)
  /-- The count is the size of the map. -/
  len : s.len = s.view.size
  /-- A bounded store's map holds at most the bound. -/
  bounded : 0 < s.maxEntries → s.view.size ≤ s.maxEntries

/-- Every store that a sequence of calls reaches from an empty one refines its map. -/
theorem refines_map {s : Store} (reachable : s.Reachable) : s.RefinesMap := by
  have coherent := reachable.coherent
  have unique := coherent.unique
  have size : s.view.size = s.count := by rw [size_view unique, coherent.count_eq]
  exact {
    get := get_spec unique
    add_within := fun _ _ within => view_add_of_within coherent.toConsistent within
    add_over := fun _ _ bounded overfull => view_add_of_over coherent bounded overfull
    remove := view_remove unique
    clear := view_clear unique
    purge := view_purgeExpired unique
    len := size.symm
    bounded := fun bounded => size ▸ coherent.within bounded }

/-- A store with a bound of one, after one add, is reachable, and so refines its map. -/
theorem refines_map_after_add :
    let s := (Store.bounded 1).add 0
      { uri := "/a", media := Media.MediaType.octetStream, headers := {}, body := [],
        etag := "v1", maxAge := 10, expiresAt := 10, vary := {}, sequence := 0 }
    s.Reachable ∧ s.RefinesMap :=
  have reachable : Store.Reachable ((Store.bounded 1).add 0
      { uri := "/a", media := Media.MediaType.octetStream, headers := {}, body := [],
        etag := "v1", maxAge := 10, expiresAt := 10, vary := {}, sequence := 0 }) :=
    ⟨1, none, .single (.add _ _ _)⟩
  ⟨reachable, refines_map reachable⟩

end Store

end Cache
end ResponseCache
