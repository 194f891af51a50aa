import ResponseCache.Cache.Store
/-!
# The eviction order

The eviction index keeps two lists in ascending order: the slots of the stored entries by
sequence, resource key and variant key, and the same slots paired with the entries' expiry
times, by time first. Both comparisons are strict total orders: they are transitive, flip when
their arguments swap, and say `eq` only of equal values. So a list grown by `insertOrdered` and
shrunk by filtering stays strictly ascending and holds exactly what was put in, and its head lies
below every other member.
-/

namespace ResponseCache
namespace Cache

open Std

theorem transCmp_comap {α β : Type} (cmp : β → β → Ordering) [TransCmp cmp]
    (f : α → β) : TransCmp fun a b => cmp (f a) (f b) where
  eq_swap := OrientedCmp.eq_swap
  isLE_trans := TransCmp.isLE_trans

theorem VarySnapshot.compareLex_eq {α : Type} (cmp : α → α → Ordering) :
    VarySnapshot.compareLex cmp = List.compareLex cmp := by
  funext as bs
  induction as generalizing bs with
  | nil => cases bs <;> rfl
  | cons a as ih =>
      cases bs with
      | nil => rfl
      | cons b bs => rw [VarySnapshot.compareLex, List.compareLex_cons_cons, ih]

/-- How vary snapshots compare two of their entries: by name, then by values. -/
abbrev varyEntryCompare : String × List String → String × List String → Ordering :=
  compareLex (compareOn Prod.fst) (compareOn Prod.snd)

instance : LawfulEqCmp varyEntryCompare where
  eq_of_compare {x y} same := by
    simp only [varyEntryCompare, compareLex, compareOn, Ordering.then_eq_eq,
      LawfulEqCmp.compare_eq_iff_eq] at same
    exact Prod.ext same.1 same.2

theorem VarySnapshot.compare_eq :
    VarySnapshot.compare = fun a b => List.compareLex varyEntryCompare a.entries b.entries := by
  funext a b
  simp only [VarySnapshot.compare, VarySnapshot.compareLex_eq]
  rfl

instance : TransCmp VarySnapshot.compare := by
  rw [VarySnapshot.compare_eq]
  exact transCmp_comap _ VarySnapshot.entries

instance : LawfulEqCmp VarySnapshot.compare where
  eq_of_compare {a b} same := by
    rw [VarySnapshot.compare_eq] at same
    cases a
    cases b
    congr
    exact LawfulEqCmp.eq_of_compare same

theorem VariantKey.compare_eq :
    VariantKey.compare = compareLex (compareOn fun k : VariantKey => k.media.mainType)
      (compareLex (compareOn fun k : VariantKey => k.media.subtype)
        fun a b => a.vary.compare b.vary) := rfl

instance : TransCmp VariantKey.compare := by
  rw [VariantKey.compare_eq]
  have := transCmp_comap VarySnapshot.compare VariantKey.vary
  infer_instance

instance : LawfulEqCmp VariantKey.compare where
  eq_of_compare {a b} same := by
    simp only [VariantKey.compare, Ordering.then_eq_eq, LawfulEqCmp.compare_eq_iff_eq] at same
    obtain ⟨mainType, subtype, vary⟩ := same
    obtain ⟨⟨_, _⟩, _⟩ := a
    obtain ⟨⟨_, _⟩, _⟩ := b
    simp_all

theorem Slot.compare_eq :
    Slot.compare = compareLex (compareOn Slot.sequence)
      (compareLex (compareOn Slot.uri) fun a b => a.key.compare b.key) := rfl

instance : TransCmp Slot.compare := by
  rw [Slot.compare_eq]
  have := transCmp_comap VariantKey.compare Slot.key
  infer_instance

instance : LawfulEqCmp Slot.compare where
  eq_of_compare {a b} same := by
    simp only [Slot.compare, Ordering.then_eq_eq, LawfulEqCmp.compare_eq_iff_eq] at same
    obtain ⟨sequence, uri, key⟩ := same
    cases a
    cases b
    simp_all

theorem EvictionIndex.compareTimed_eq :
    EvictionIndex.compareTimed = compareLex (compareOn Prod.fst)
      fun a b : Nat × Slot => a.2.compare b.2 := rfl

instance : TransCmp EvictionIndex.compareTimed := by
  rw [EvictionIndex.compareTimed_eq]
  have := transCmp_comap Slot.compare (Prod.snd : Nat × Slot → Slot)
  infer_instance

instance : LawfulEqCmp EvictionIndex.compareTimed where
  eq_of_compare {a b} same := by
    simp only [EvictionIndex.compareTimed, Ordering.then_eq_eq,
      LawfulEqCmp.compare_eq_iff_eq] at same
    exact Prod.ext same.1 same.2

theorem string_compare_eq_lt {a b : String} : compare a b = .lt ↔ a < b :=
  compareOfLessAndEq_eq_lt

section Insert

variable {α : Type} {cmp : α → α → Ordering} [LawfulEqCmp cmp]

theorem mem_insertOrdered {x y : α} {l : List α} :
    y ∈ insertOrdered cmp x l ↔ y = x ∨ y ∈ l := by
  induction l with
  | nil => simp [insertOrdered]
  | cons z zs ih =>
      unfold insertOrdered
      split
      · simp
      · rename_i same
        obtain rfl : x = z := LawfulEqCmp.eq_of_compare same
        simp
      · simp only [List.mem_cons, ih]
        exact or_left_comm

theorem pairwise_insertOrdered [TransCmp cmp] {x : α} {l : List α}
    (sorted : l.Pairwise (cmp · · = .lt)) : (insertOrdered cmp x l).Pairwise (cmp · · = .lt) := by
  induction l with
  | nil => simp [insertOrdered]
  | cons z zs ih =>
      obtain ⟨headLess, tailSorted⟩ := List.pairwise_cons.mp sorted
      unfold insertOrdered
      split
      · rename_i less
        refine List.pairwise_cons.mpr ⟨?_, sorted⟩
        intro w member
        rcases List.mem_cons.mp member with rfl | tail
        · exact less
        · exact TransCmp.lt_trans less (headLess w tail)
      · exact sorted
      · rename_i greater
        refine List.pairwise_cons.mpr ⟨?_, ih tailSorted⟩
        intro w member
        rcases mem_insertOrdered.mp member with rfl | tail
        · exact OrientedCmp.lt_of_gt greater
        · exact headLess w tail

end Insert

/-- The eviction order among entries when none has expired: by sequence, then by resource key,
then by variant key. -/
def Entry.StoredBefore (a b : Entry) : Prop :=
  a.sequence < b.sequence ∨
    a.sequence = b.sequence ∧ (a.uri < b.uri ∨ a.uri = b.uri ∧ a.key.compare b.key = .lt)

/-- The eviction order among expired entries: by expiry time, then as `StoredBefore`. -/
def Entry.ExpiredBefore (a b : Entry) : Prop :=
  a.expiresAt < b.expiresAt ∨ a.expiresAt = b.expiresAt ∧ a.StoredBefore b

theorem Slot.compare_ofEntry_eq_lt {a b : Entry} :
    Slot.compare (Slot.ofEntry a) (Slot.ofEntry b) = .lt ↔ a.StoredBefore b := by
  simp only [Slot.compare, Slot.ofEntry, Entry.StoredBefore, Ordering.then_eq_lt,
    Nat.compare_eq_lt, string_compare_eq_lt, LawfulEqCmp.compare_eq_iff_eq]

theorem EvictionIndex.compareTimed_ofEntry_eq_lt {a b : Entry} :
    EvictionIndex.compareTimed (a.expiresAt, Slot.ofEntry a) (b.expiresAt, Slot.ofEntry b) = .lt ↔
      a.ExpiredBefore b := by
  simp only [EvictionIndex.compareTimed, Entry.ExpiredBefore, Ordering.then_eq_lt,
    Nat.compare_eq_lt, LawfulEqCmp.compare_eq_iff_eq, Slot.compare_ofEntry_eq_lt]

end Cache
end ResponseCache
