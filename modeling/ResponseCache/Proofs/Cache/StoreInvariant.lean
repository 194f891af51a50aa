import ResponseCache.Proofs.Cache.SlotOrder
import Mathlib.Data.List.Nodup
import Mathlib.Logic.Relation
/-!
# What every reachable store keeps

A store is coherent when it holds at most one entry per resource key and variant key, its count
is the number of its entries, its eviction index holds exactly the slots of its entries in strict
order, and a bounded store holds no more entries than its bound. The empty store is coherent and
every call keeps it so. For an add this rests on eviction: in a coherent store one over its bound,
the first slot of the index names a stored entry, the one the eviction rule picks, and removing
it brings the store back to its bound.
-/

namespace ResponseCache
namespace Cache

open Std

/-- Where an entry is stored: its resource key and its variant key. -/
def Entry.mapKey (e : Entry) : String × VariantKey := (e.uri, e.key)

theorem Store.sameVariant_iff {uri : String} {key : VariantKey} {e : Entry} :
    Store.sameVariant uri key e = true ↔ e.mapKey = (uri, key) := by
  simp [Store.sameVariant, Entry.mapKey]

theorem Slot.mapKey_eq_of_ofEntry_eq {a b : Entry} (same : Slot.ofEntry a = Slot.ofEntry b) :
    a.mapKey = b.mapKey := by
  simp only [Slot.ofEntry, Slot.mk.injEq] at same
  simp [Entry.mapKey, same.2.1, same.2.2]

/-- No two entries of a list are stored at the same place. -/
def UniqueKeys (entries : List Entry) : Prop := (entries.map Entry.mapKey).Nodup

namespace UniqueKeys

variable {entries : List Entry}

theorem eq_of_mapKey_eq (unique : UniqueKeys entries) {a b : Entry} (ha : a ∈ entries)
    (hb : b ∈ entries) (same : a.mapKey = b.mapKey) : a = b :=
  List.inj_on_of_nodup_map unique ha hb same

theorem nodup (unique : UniqueKeys entries) : entries.Nodup := List.Nodup.of_map _ unique

theorem filter (unique : UniqueKeys entries) (keep : Entry → Bool) :
    UniqueKeys (entries.filter keep) :=
  unique.sublist (List.filter_sublist.map _)

theorem find?_eq (unique : UniqueKeys entries) {v : Entry} (hv : v ∈ entries) :
    entries.find? (Store.sameVariant v.uri v.key) = some v := by
  obtain ⟨w, found⟩ := Option.isSome_iff_exists.mp
    (List.find?_isSome.mpr ⟨v, hv, Store.sameVariant_iff.mpr rfl⟩)
  have same := Store.sameVariant_iff.mp (List.find?_some found)
  rw [found, unique.eq_of_mapKey_eq (List.mem_of_find?_eq_some found) hv same]

theorem perm_filter_of_find? (unique : UniqueKeys entries) {uri : String} {key : VariantKey}
    {p : Entry} (found : entries.find? (Store.sameVariant uri key) = some p) :
    [p].Perm (entries.filter (Store.sameVariant uri key)) := by
  have hp := List.mem_of_find?_eq_some found
  have place := Store.sameVariant_iff.mp (List.find?_some found)
  apply (List.perm_ext_iff_of_nodup (List.nodup_singleton p) (unique.nodup.filter _)).mpr
  intro x
  simp only [List.mem_singleton, List.mem_filter, Store.sameVariant_iff]
  constructor
  · rintro rfl
    exact ⟨hp, place⟩
  · rintro ⟨hx, xPlace⟩
    exact unique.eq_of_mapKey_eq hx hp (xPlace.trans place.symm)

end UniqueKeys

/-- The index holds exactly the slots of the entries, each list in strictly ascending order. -/
structure EvictionIndex.Mirrors (ix : EvictionIndex) (entries : List Entry) : Prop where
  /-- The slots by sequence are those of the entries. -/
  mem_bySequence : ∀ slot, slot ∈ ix.bySequence ↔ ∃ e ∈ entries, Slot.ofEntry e = slot
  /-- The timed slots are those of the entries, each with its expiry time. -/
  mem_byExpiry : ∀ p, p ∈ ix.byExpiry ↔ ∃ e ∈ entries, (e.expiresAt, Slot.ofEntry e) = p
  /-- The slots by sequence ascend strictly. -/
  sorted_bySequence : ix.bySequence.Pairwise (Slot.compare · · = .lt)
  /-- The timed slots ascend strictly. -/
  sorted_byExpiry : ix.byExpiry.Pairwise (EvictionIndex.compareTimed · · = .lt)

namespace EvictionIndex

theorem bySequence_foldl_erase (gone : List Entry) (ix : EvictionIndex) :
    (gone.foldl erase ix).bySequence =
      ix.bySequence.filter fun slot => gone.all fun g => slot != Slot.ofEntry g := by
  induction gone generalizing ix with
  | nil => simp
  | cons g gone ih =>
      rw [List.foldl_cons, ih, erase, List.filter_filter]
      congr 1
      funext slot
      simp [Bool.and_comm]

theorem byExpiry_foldl_erase (gone : List Entry) (ix : EvictionIndex) :
    (gone.foldl erase ix).byExpiry =
      ix.byExpiry.filter fun p => gone.all fun g => p != (g.expiresAt, Slot.ofEntry g) := by
  induction gone generalizing ix with
  | nil => simp
  | cons g gone ih =>
      rw [List.foldl_cons, ih, erase, List.filter_filter]
      congr 1
      funext p
      simp [Bool.and_comm]

/-- Dropping from a list of images of all entries the images of the removed ones leaves the
images of the kept ones, when an image tells where its entry is stored. -/
theorem mem_filter_images {β : Type} [BEq β] [LawfulBEq β] {image : Entry → β}
    (locates : ∀ a b, image a = image b → a.mapKey = b.mapKey) {entries gone : List Entry}
    (unique : UniqueKeys entries) {keep : Entry → Bool}
    (hgone : ∀ g, g ∈ gone ↔ g ∈ entries ∧ keep g = false) {xs : List β}
    (mem : ∀ y, y ∈ xs ↔ ∃ e ∈ entries, image e = y) (y : β) :
    y ∈ xs.filter (fun y => gone.all fun g => y != image g) ↔
      ∃ e ∈ entries.filter keep, image e = y := by
  simp only [List.mem_filter, mem, List.all_eq_true, bne_iff_ne, ne_eq]
  constructor
  · rintro ⟨⟨e, he, rfl⟩, notGone⟩
    refine ⟨e, ⟨he, ?_⟩, rfl⟩
    cases kept : keep e
    · exact absurd rfl (notGone e ((hgone e).mpr ⟨he, kept⟩))
    · rfl
  · rintro ⟨e, ⟨he, keepE⟩, rfl⟩
    refine ⟨⟨e, he, rfl⟩, fun g hg same => ?_⟩
    obtain ⟨gIn, keepG⟩ := (hgone g).mp hg
    rw [unique.eq_of_mapKey_eq he gIn (locates _ _ same)] at keepE
    simp [keepG] at keepE

namespace Mirrors

variable {ix : EvictionIndex} {entries : List Entry}

theorem congr (mirrors : ix.Mirrors entries) {other : List Entry}
    (same : ∀ e, e ∈ entries ↔ e ∈ other) : ix.Mirrors other where
  mem_bySequence slot := by simp only [mirrors.mem_bySequence, same]
  mem_byExpiry p := by simp only [mirrors.mem_byExpiry, same]
  sorted_bySequence := mirrors.sorted_bySequence
  sorted_byExpiry := mirrors.sorted_byExpiry

theorem insert (mirrors : ix.Mirrors entries) (e : Entry) :
    (ix.insert e).Mirrors (e :: entries) where
  mem_bySequence slot := by
    simp [EvictionIndex.insert, mem_insertOrdered, mirrors.mem_bySequence, or_and_right,
      exists_or, eq_comm]
  mem_byExpiry p := by
    simp [EvictionIndex.insert, mem_insertOrdered, mirrors.mem_byExpiry, or_and_right,
      exists_or, eq_comm]
  sorted_bySequence := pairwise_insertOrdered mirrors.sorted_bySequence
  sorted_byExpiry := pairwise_insertOrdered mirrors.sorted_byExpiry

theorem forget (mirrors : ix.Mirrors entries) (unique : UniqueKeys entries)
    {keep : Entry → Bool} {gone : List Entry}
    (hgone : ∀ g, g ∈ gone ↔ g ∈ entries ∧ keep g = false) :
    (gone.foldl EvictionIndex.erase ix).Mirrors (entries.filter keep) where
  mem_bySequence := by
    rw [bySequence_foldl_erase]
    exact mem_filter_images (fun _ _ => Slot.mapKey_eq_of_ofEntry_eq) unique hgone
      mirrors.mem_bySequence
  mem_byExpiry := by
    rw [byExpiry_foldl_erase]
    exact mem_filter_images (fun _ _ same => Slot.mapKey_eq_of_ofEntry_eq (congrArg Prod.snd same))
      unique hgone mirrors.mem_byExpiry
  sorted_bySequence := by
    rw [bySequence_foldl_erase]
    exact mirrors.sorted_bySequence.filter _
  sorted_byExpiry := by
    rw [byExpiry_foldl_erase]
    exact mirrors.sorted_byExpiry.filter _

end Mirrors

end EvictionIndex

/-- The head of a strictly ascending list of the images of the stored entries is the image of an
entry that comes before every other stored entry. -/
theorem head_image {β : Type} {cmp : β → β → Ordering} {image : Entry → β}
    (locates : ∀ a b, image a = image b → a.mapKey = b.mapKey) {entries : List Entry}
    (unique : UniqueKeys entries) {first : β} {rest : List β}
    (mem : ∀ y, y ∈ first :: rest ↔ ∃ e ∈ entries, image e = y)
    (sorted : (first :: rest).Pairwise (cmp · · = .lt)) :
    ∃ v ∈ entries, image v = first ∧
      ∀ x ∈ entries, x ≠ v → cmp (image v) (image x) = .lt := by
  obtain ⟨v, hv, rfl⟩ := (mem first).mp List.mem_cons_self
  refine ⟨v, hv, rfl, fun x hx ne => ?_⟩
  rcases List.mem_cons.mp ((mem (image x)).mpr ⟨x, hx, rfl⟩) with same | later
  · exact absurd (unique.eq_of_mapKey_eq hx hv (locates _ _ same)) ne
  · exact List.rel_of_pairwise_cons sorted later

theorem Entry.ExpiredBefore.expiresAt_le {a b : Entry} (before : a.ExpiredBefore b) :
    a.expiresAt ≤ b.expiresAt := by
  rcases before with earlier | ⟨same, _⟩
  · exact Nat.le_of_lt earlier
  · exact Nat.le_of_eq same

/-- `v` is the entry the eviction rule picks at `now` among the entries `held` admits: the first by
`ExpiredBefore` of those expired at `now` if there are any, else the first by `StoredBefore`. -/
structure Entry.IsVictim (held : Entry → Prop) (now : Nat) (v : Entry) : Prop where
  /-- The victim is held. -/
  holds : held v
  /-- If some held entry has expired, the victim is the first expired one. -/
  first_expired : (∃ x, held x ∧ x.expiresAt ≤ now) →
    v.expiresAt ≤ now ∧ ∀ x, held x → x.expiresAt ≤ now → x ≠ v → v.ExpiredBefore x
  /-- Otherwise the victim is the first stored one. -/
  first_stored : (¬∃ x, held x ∧ x.expiresAt ≤ now) → ∀ x, held x → x ≠ v → v.StoredBefore x

namespace Store

/-- What every call keeps: at most one entry per place, a count of the entries, and an index that
mirrors them. -/
structure Consistent (s : Store) : Prop where
  /-- At most one entry per resource key and variant key. -/
  unique : UniqueKeys s.entries
  /-- The count is the number of entries. -/
  count_eq : s.count = s.entries.length
  /-- The index mirrors the entries. -/
  mirrors : s.index.Mirrors s.entries

/-- What every reachable store satisfies: it is consistent, and within its bound if it has one. -/
structure Coherent (s : Store) : Prop extends Consistent s where
  /-- A bounded store holds at most its bound. -/
  within : 0 < s.maxEntries → s.count ≤ s.maxEntries

/-- Taking out the entries that `keep` rejects, and forgetting them in the index and the count,
keeps a store consistent. -/
theorem Consistent.drop {s : Store} (consistent : s.Consistent) (keep : Entry → Bool)
    {gone : List Entry} (perm : gone.Perm (s.entries.filter fun e => !keep e)) :
    ({ s.forget gone with entries := s.entries.filter keep } : Store).Consistent where
  unique := consistent.unique.filter keep
  count_eq := by
    have split := s.entries.length_eq_length_filter_add keep
    simp only [forget]
    rw [perm.length_eq, consistent.count_eq]
    omega
  mirrors := consistent.mirrors.forget consistent.unique fun g => by
    rw [perm.mem_iff, List.mem_filter]
    simp

/-- A store with `e` stored in place of the entry at its place, or appended, before anything is
evicted: the first half of `add`. -/
def insertEntry (s : Store) (e : Entry) : Store :=
  let previous := s.entries.find? (sameVariant e.uri e.key)
  { s with
    entries := match previous with
      | some _ => s.entries.map fun x => if sameVariant e.uri e.key x then e else x
      | none => s.entries ++ [e]
    index := match previous with
      | some p => (s.index.erase p).insert e
      | none => s.index.insert e
    count := match previous with
      | some _ => s.count
      | none => s.count + 1 }

theorem add_eq (s : Store) (now : Nat) (e : Entry) :
    s.add now e = if s.maxEntries = 0 then s.insertEntry e
      else evict (s.ownClock.getD now) (s.insertEntry e).count (s.insertEntry e) := rfl

@[simp]
theorem insertEntry_maxEntries (s : Store) (e : Entry) :
    (s.insertEntry e).maxEntries = s.maxEntries := rfl

@[simp]
theorem insertEntry_ownClock (s : Store) (e : Entry) :
    (s.insertEntry e).ownClock = s.ownClock := rfl

theorem sameVariant_self_eq_false {e x : Entry} :
    sameVariant e.uri e.key x = false ↔ x.mapKey ≠ e.mapKey := by
  rw [ne_eq, ← sameVariant_iff, Bool.not_eq_true]
  rfl

theorem insertEntry_count_le (s : Store) (e : Entry) : (s.insertEntry e).count ≤ s.count + 1 := by
  unfold insertEntry
  dsimp only
  split <;> simp

theorem mem_insertEntry {s : Store} {e x : Entry} :
    x ∈ (s.insertEntry e).entries ↔ x = e ∨ x ∈ s.entries ∧ x.mapKey ≠ e.mapKey := by
  unfold insertEntry
  cases found : s.entries.find? (sameVariant e.uri e.key) with
  | none =>
      have away : ∀ y ∈ s.entries, y.mapKey ≠ e.mapKey := fun y hy same =>
        List.find?_eq_none.mp found y hy (sameVariant_iff.mpr same)
      simp only [List.mem_append, List.mem_singleton]
      constructor
      · rintro (hx | rfl)
        · exact Or.inr ⟨hx, away x hx⟩
        · exact Or.inl rfl
      · rintro (rfl | ⟨hx, _⟩)
        · exact Or.inr rfl
        · exact Or.inl hx
  | some p =>
      simp only [List.mem_map]
      constructor
      · rintro ⟨y, hy, rfl⟩
        by_cases here : sameVariant e.uri e.key y = true
        · exact Or.inl (if_pos here)
        · rw [if_neg here]
          exact Or.inr ⟨hy, fun same => here (sameVariant_iff.mpr same)⟩
      · rintro (rfl | ⟨hx, away⟩)
        · exact ⟨p, List.mem_of_find?_eq_some found, if_pos (List.find?_some found)⟩
        · exact ⟨x, hx, if_neg fun here => away (sameVariant_iff.mp here)⟩

theorem insertEntry_unique {s : Store} (unique : UniqueKeys s.entries) (e : Entry) :
    UniqueKeys (s.insertEntry e).entries := by
  unfold insertEntry
  cases found : s.entries.find? (sameVariant e.uri e.key) with
  | none =>
      simp only [UniqueKeys, List.map_append, List.map_cons, List.map_nil]
      refine List.nodup_append.mpr ⟨unique, List.nodup_singleton _, ?_⟩
      simp only [List.mem_map, List.mem_singleton]
      rintro _ ⟨y, hy, rfl⟩ _ rfl same
      exact List.find?_eq_none.mp found y hy (sameVariant_iff.mpr same)
  | some p =>
      have keys : (s.entries.map fun x => if sameVariant e.uri e.key x then e else x).map
          Entry.mapKey = s.entries.map Entry.mapKey := by
        rw [List.map_map]
        apply List.map_congr_left
        intro x _
        by_cases here : sameVariant e.uri e.key x = true
        · simp only [Function.comp_apply, if_pos here]
          exact (sameVariant_iff.mp here).symm
        · simp only [Function.comp_apply, if_neg here]
      simpa only [UniqueKeys, keys] using unique

theorem insertEntry_count_eq {s : Store} (counted : s.count = s.entries.length) (e : Entry) :
    (s.insertEntry e).count = (s.insertEntry e).entries.length := by
  unfold insertEntry
  cases s.entries.find? (sameVariant e.uri e.key) <;> simp [counted]

theorem insertEntry_mirrors {s : Store} (consistent : s.Consistent) (e : Entry) :
    (s.insertEntry e).index.Mirrors
      (e :: s.entries.filter fun x => !sameVariant e.uri e.key x) := by
  unfold insertEntry
  cases found : s.entries.find? (sameVariant e.uri e.key) with
  | none =>
      have kept : s.entries.filter (fun x => !sameVariant e.uri e.key x) = s.entries :=
        List.filter_eq_self.mpr fun y hy => by simpa using List.find?_eq_none.mp found y hy
      rw [kept]
      exact consistent.mirrors.insert e
  | some p =>
      have erased : ([p].foldl EvictionIndex.erase s.index).Mirrors
          (s.entries.filter fun x => !sameVariant e.uri e.key x) :=
        consistent.mirrors.forget consistent.unique fun g => by
          rw [(consistent.unique.perm_filter_of_find? found).mem_iff, List.mem_filter]
          simp
      exact erased.insert e

theorem Consistent.insertEntry {s : Store} (consistent : s.Consistent) (e : Entry) :
    (s.insertEntry e).Consistent where
  unique := insertEntry_unique consistent.unique e
  count_eq := insertEntry_count_eq consistent.count_eq e
  mirrors := (insertEntry_mirrors consistent e).congr fun x => by
    rw [mem_insertEntry]
    simp [sameVariant_self_eq_false]

/-- In a consistent store with entries, the index names as victim the slot of the entry the
eviction rule picks. -/
theorem Consistent.victim_eq {s : Store} (consistent : s.Consistent) (nonempty : s.entries ≠ [])
    (now : Nat) :
    ∃ v, s.index.victim now = some (Slot.ofEntry v) ∧ v.IsVictim (· ∈ s.entries) now := by
  obtain ⟨e₀, he₀⟩ := List.exists_mem_of_ne_nil s.entries nonempty
  have mirrors := consistent.mirrors
  unfold EvictionIndex.victim
  cases hexp : s.index.byExpiry with
  | nil =>
      have held := (mirrors.mem_byExpiry _).mpr ⟨e₀, he₀, rfl⟩
      rw [hexp] at held
      cases held
  | cons first rest =>
      have mem : ∀ p, p ∈ first :: rest ↔
          ∃ e ∈ s.entries, (e.expiresAt, Slot.ofEntry e) = p := by
        rw [← hexp]
        exact mirrors.mem_byExpiry
      have sorted := mirrors.sorted_byExpiry
      rw [hexp] at sorted
      obtain ⟨v, hv, rfl, vFirst⟩ := head_image
        (fun _ _ same => Slot.mapKey_eq_of_ofEntry_eq (congrArg Prod.snd same)) consistent.unique
        mem sorted
      dsimp only
      by_cases expired : v.expiresAt ≤ now
      · rw [if_pos expired]
        refine ⟨v, rfl, hv, fun _ => ⟨expired, fun x hx _ ne => ?_⟩,
          fun none => absurd ⟨v, hv, expired⟩ none⟩
        exact EvictionIndex.compareTimed_ofEntry_eq_lt.mp (vFirst x hx ne)
      · rw [if_neg expired]
        have fresh : ∀ x ∈ s.entries, ¬x.expiresAt ≤ now := by
          intro x hx
          by_cases same : x = v
          · rw [same]
            exact expired
          · have later := Entry.ExpiredBefore.expiresAt_le
              (EvictionIndex.compareTimed_ofEntry_eq_lt.mp (vFirst x hx same))
            omega
        cases hseq : s.index.bySequence with
        | nil =>
            have held := (mirrors.mem_bySequence _).mpr ⟨e₀, he₀, rfl⟩
            rw [hseq] at held
            cases held
        | cons first' rest' =>
            have mem' : ∀ slot, slot ∈ first' :: rest' ↔
                ∃ e ∈ s.entries, Slot.ofEntry e = slot := by
              rw [← hseq]
              exact mirrors.mem_bySequence
            have sorted' := mirrors.sorted_bySequence
            rw [hseq] at sorted'
            obtain ⟨w, hw, rfl, wFirst⟩ := head_image (fun _ _ => Slot.mapKey_eq_of_ofEntry_eq)
              consistent.unique mem' sorted'
            refine ⟨w, rfl, hw, fun ⟨x, hx, ex⟩ => absurd ex (fresh x hx),
              fun _ x hx ne => ?_⟩
            exact Slot.compare_ofEntry_eq_lt.mp (wFirst x hx ne)

@[simp]
theorem removeSlot_maxEntries (s : Store) (slot : Slot) :
    (s.removeSlot slot).maxEntries = s.maxEntries := by
  unfold removeSlot
  split
  · split <;> rfl
  · rfl

theorem removeSlot_ofEntry {s : Store} (unique : UniqueKeys s.entries) {v : Entry}
    (hv : v ∈ s.entries) :
    s.removeSlot (Slot.ofEntry v) =
      { s.forget [v] with entries := s.entries.filter fun x => !sameVariant v.uri v.key x } := by
  simp [removeSlot, Slot.ofEntry, unique.find?_eq hv]

theorem Consistent.removeSlot {s : Store} (consistent : s.Consistent) {v : Entry}
    (hv : v ∈ s.entries) : (s.removeSlot (Slot.ofEntry v)).Consistent := by
  rw [removeSlot_ofEntry consistent.unique hv]
  refine consistent.drop _ ?_
  simpa using consistent.unique.perm_filter_of_find? (consistent.unique.find?_eq hv)

theorem evict_of_le (now : Nat) : ∀ (fuel : Nat) {s : Store}, s.count ≤ s.maxEntries →
    evict now fuel s = s
  | 0, _, _ => rfl
  | _ + 1, _, within => by simp [evict, Nat.not_lt.mpr within]

theorem add_of_within {s : Store} {now : Nat} {e : Entry}
    (within : s.maxEntries = 0 ∨ (s.insertEntry e).count ≤ s.maxEntries) :
    s.add now e = s.insertEntry e := by
  rw [add_eq]
  split
  · rfl
  · rename_i bounded
    exact evict_of_le _ _ (within.resolve_left bounded)

/-- An add that takes a coherent bounded store over its bound evicts exactly the entry that the
eviction rule picks at the store's clock, which brings the store back to its bound. -/
theorem Coherent.add_of_over {s : Store} (coherent : s.Coherent) (now : Nat) {e : Entry}
    (bounded : 0 < s.maxEntries) (overfull : s.maxEntries < (s.insertEntry e).count) :
    ∃ v, v.IsVictim (· ∈ (s.insertEntry e).entries) (s.ownClock.getD now) ∧
      s.add now e = (s.insertEntry e).removeSlot (Slot.ofEntry v) ∧
      ((s.insertEntry e).removeSlot (Slot.ofEntry v)).count = s.maxEntries := by
  have consistent := coherent.toConsistent.insertEntry e
  have atBound : (s.insertEntry e).count = s.maxEntries + 1 := by
    have grows := insertEntry_count_le s e
    have within := coherent.within bounded
    omega
  have nonempty : (s.insertEntry e).entries ≠ [] := by
    intro empty
    have counted := consistent.count_eq
    rw [empty, atBound] at counted
    cases counted
  obtain ⟨v, found, victim⟩ := consistent.victim_eq nonempty (s.ownClock.getD now)
  have removed : ((s.insertEntry e).removeSlot (Slot.ofEntry v)).count = s.maxEntries := by
    rw [removeSlot_ofEntry consistent.unique victim.holds]
    simp [forget, atBound]
  refine ⟨v, victim, ?_, removed⟩
  rw [add_eq, if_neg (Nat.pos_iff_ne_zero.mp bounded), atBound, evict,
    if_pos (by simp [atBound]), found]
  exact evict_of_le _ _ (by simp [removed])

/-- Dropping the entries that `keep` rejects, as remove, clear and purge do, keeps a store
coherent. -/
theorem Coherent.drop {s : Store} (coherent : s.Coherent) (keep : Entry → Bool)
    {gone : List Entry} (perm : gone.Perm (s.entries.filter fun e => !keep e)) :
    ({ s.forget gone with entries := s.entries.filter keep } : Store).Coherent where
  toConsistent := coherent.toConsistent.drop keep perm
  within bounded := by
    simp only [forget]
    have := coherent.within bounded
    omega

theorem Coherent.add {s : Store} (coherent : s.Coherent) (now : Nat) (e : Entry) :
    (s.add now e).Coherent := by
  by_cases overfull : 0 < s.maxEntries ∧ s.maxEntries < (s.insertEntry e).count
  · obtain ⟨v, victim, added, removed⟩ := coherent.add_of_over now overfull.1 overfull.2
    rw [added]
    exact ⟨(coherent.toConsistent.insertEntry e).removeSlot victim.holds,
      fun _ => by simp [removed]⟩
  · have within : s.maxEntries = 0 ∨ (s.insertEntry e).count ≤ s.maxEntries := by omega
    rw [add_of_within within]
    exact ⟨coherent.toConsistent.insertEntry e, fun bounded => by
      rw [insertEntry_maxEntries] at bounded ⊢
      omega⟩

theorem remove_eq (s : Store) (uri : String) :
    s.remove uri = ({ s.forget (s.get uri) with entries := s.entries.filter (·.uri != uri) },
      (s.get uri).length) := rfl

theorem Coherent.remove {s : Store} (coherent : s.Coherent) (uri : String) :
    (s.remove uri).1.Coherent := by
  rw [remove_eq]
  exact coherent.drop _ (.of_eq (by simp [get, bne]))

theorem clear_eq (s : Store) :
    s.clear = { s.forget s.entries with entries := s.entries.filter fun _ => false } := by
  simp [clear]

theorem Coherent.clear {s : Store} (coherent : s.Coherent) : s.clear.Coherent := by
  rw [clear_eq]
  exact coherent.drop _ (.of_eq (by simp))

theorem purgeExpired_eq (s : Store) (now grace : Nat) :
    s.purgeExpired now grace =
      ({ s.forget (s.entries.filter (·.isExpired (now - grace))) with
          entries := s.entries.filter (!·.isExpired (now - grace)) },
        (s.entries.filter (·.isExpired (now - grace))).length) := rfl

theorem Coherent.purgeExpired {s : Store} (coherent : s.Coherent) (now grace : Nat) :
    (s.purgeExpired now grace).1.Coherent := by
  rw [purgeExpired_eq]
  exact coherent.drop _ (.of_eq (by simp))

/-- One call that changes a store. -/
inductive Step : Store → Store → Prop
  /-- Storing an entry; `now` is what the store's clock reads unless it has one of its own. -/
  | add (s : Store) (now : Nat) (e : Entry) : Step s (s.add now e)
  /-- Dropping every variant of a resource key. -/
  | remove (s : Store) (uri : String) : Step s (s.remove uri).1
  /-- Dropping everything. -/
  | clear (s : Store) : Step s s.clear
  /-- Purging what expired more than `grace` seconds before `now`. -/
  | purge (s : Store) (now grace : Nat) : Step s (s.purgeExpired now grace).1

/-- The stores that some sequence of calls reaches from an empty store with a bound and a clock;
lookups and counts change nothing, so the calls that matter are those of `Step`. -/
def Reachable (s : Store) : Prop :=
  ∃ (maxEntries : Nat) (ownClock : Option Nat),
    Relation.ReflTransGen Step { maxEntries, ownClock } s

theorem Coherent.step {s t : Store} (coherent : s.Coherent) (step : Step s t) : t.Coherent := by
  cases step with
  | add now e => exact coherent.add now e
  | remove uri => exact coherent.remove uri
  | clear => exact coherent.clear
  | purge now grace => exact coherent.purgeExpired now grace

theorem Reachable.coherent {s : Store} (reachable : s.Reachable) : s.Coherent := by
  obtain ⟨maxEntries, ownClock, run⟩ := reachable
  induction run with
  | refl =>
      refine ⟨⟨by simp [UniqueKeys], rfl, ?_⟩, fun _ => Nat.zero_le _⟩
      constructor <;> simp
  | tail _ step coherent => exact coherent.step step

theorem Reachable.step {s t : Store} (reachable : s.Reachable) (step : Step s t) : t.Reachable :=
  let ⟨maxEntries, ownClock, run⟩ := reachable
  ⟨maxEntries, ownClock, run.tail step⟩

end Store

end Cache
end ResponseCache
