import ResponseCache.Proofs.Cache.StoreInvariant
/-!
# The eviction loop

After an add takes a bounded store over its bound, the store evicts round by round until it fits.
A round reads the clock, asks the index for a victim slot, and removes the variant at that slot if
it is still the one stored with the slot's sequence; the loop stops when the store fits, or when
the index names no slot. A round makes progress only if its slot is not stale, so termination
rests on the index mirroring the entries. In a consistent store it does: every round, whatever
the clock reads, finds the slot of a stored entry, removes exactly that entry, and drops the count
by one, and the loop never stops for want of a slot.

An add grows a coherent store by at most one entry, so its loop runs at most one round and ends
within the bound. The main statement, `Store.Reachable.evictsAtMostOnce`, says this of every add
to every store a sequence of calls reaches.
-/

namespace ResponseCache
namespace Cache
namespace Store

/-- One round of the eviction loop, at whatever the clock reads when it starts: the store holds
more than its bound, the index names a victim slot, and the variant at that slot is removed if it
is still the one stored with the slot's sequence. -/
inductive EvictionRound : Store → Store → Prop
  | evict {s : Store} (now : Nat) {slot : Slot} (overfull : s.maxEntries < s.count)
      (named : s.index.victim now = some slot) : EvictionRound s (s.removeSlot slot)

/-- The stores the eviction loop passes through, round after round. -/
abbrev EvictionRun : Store → Store → Prop := Relation.ReflTransGen EvictionRound

@[simp]
theorem evict_maxEntries (now : Nat) :
    ∀ (fuel : Nat) (s : Store), (evict now fuel s).maxEntries = s.maxEntries
  | 0, _ => rfl
  | fuel + 1, s => by
      rw [evict]
      split
      · split
        · rw [evict_maxEntries now fuel, removeSlot_maxEntries]
        · rfl
      · rfl

@[simp]
theorem add_maxEntries (s : Store) (now : Nat) (e : Entry) :
    (s.add now e).maxEntries = s.maxEntries := by
  rw [add_eq]
  split
  · rfl
  · simp

theorem removeSlot_ofEntry_entries {s : Store} (unique : UniqueKeys s.entries) {v : Entry}
    (hv : v ∈ s.entries) : (s.removeSlot (Slot.ofEntry v)).entries = s.entries.erase v := by
  rw [removeSlot_ofEntry unique hv, unique.nodup.erase_eq_filter]
  apply List.filter_congr
  intro x hx
  have placed : sameVariant v.uri v.key x = true ↔ x = v := by
    rw [sameVariant_iff]
    exact ⟨unique.eq_of_mapKey_eq hx hv, fun same => same ▸ rfl⟩
  by_cases same : x = v
  · subst same
    simp [placed.mpr rfl]
  · simp [mt placed.mp same, same]

theorem Consistent.removeSlot_count {s : Store} (consistent : s.Consistent) {v : Entry}
    (hv : v ∈ s.entries) : (s.removeSlot (Slot.ofEntry v)).count + 1 = s.count := by
  have held : 0 < s.count := consistent.count_eq ▸ List.length_pos_of_mem hv
  rw [removeSlot_ofEntry consistent.unique hv]
  simp only [forget, List.length_singleton]
  omega

/-- In a consistent store over its bound, a round at any clock reading finds the slot of a stored
entry, with that entry's sequence; removing it takes out exactly that entry and drops the count by
one. -/
theorem Consistent.round_removes {s : Store} (consistent : s.Consistent)
    (overfull : s.maxEntries < s.count) (now : Nat) :
    ∃ v ∈ s.entries, s.index.victim now = some (Slot.ofEntry v) ∧
      (s.removeSlot (Slot.ofEntry v)).entries = s.entries.erase v ∧
      (s.removeSlot (Slot.ofEntry v)).count + 1 = s.count := by
  have nonempty : s.entries ≠ [] := by
    intro empty
    have counted := consistent.count_eq
    rw [empty, List.length_nil] at counted
    omega
  obtain ⟨v, named, victim⟩ := consistent.victim_eq nonempty now
  exact ⟨v, victim.holds, named, removeSlot_ofEntry_entries consistent.unique victim.holds,
    consistent.removeSlot_count victim.holds⟩

/-- A round of a consistent store removes one of its entries. -/
theorem EvictionRound.eq_removeSlot {s t : Store} (round : EvictionRound s t)
    (consistent : s.Consistent) : ∃ v ∈ s.entries, t = s.removeSlot (Slot.ofEntry v) := by
  cases round with
  | evict now overfull named =>
      obtain ⟨v, hv, found, _⟩ := consistent.round_removes overfull now
      rw [named, Option.some.injEq] at found
      exact ⟨v, hv, by rw [found]⟩

theorem EvictionRound.consistent {s t : Store} (round : EvictionRound s t)
    (consistent : s.Consistent) : t.Consistent := by
  obtain ⟨v, hv, rfl⟩ := round.eq_removeSlot consistent
  exact consistent.removeSlot hv

theorem EvictionRound.count_succ {s t : Store} (round : EvictionRound s t)
    (consistent : s.Consistent) : t.count + 1 = s.count := by
  obtain ⟨v, hv, rfl⟩ := round.eq_removeSlot consistent
  exact consistent.removeSlot_count hv

theorem EvictionRound.maxEntries_eq {s t : Store} (round : EvictionRound s t) :
    t.maxEntries = s.maxEntries := by
  cases round
  exact removeSlot_maxEntries _ _

/-- Rounds keep a store consistent: the invariant that carries the loop. -/
theorem EvictionRun.consistent {s t : Store} (run : EvictionRun s t) (consistent : s.Consistent) :
    t.Consistent := by
  induction run with
  | refl => exact consistent
  | tail _ round holds => exact round.consistent holds

/-- A consistent store admits a round exactly when it is over its bound: the loop never stops for
want of a victim. -/
theorem Consistent.exists_round_iff {s : Store} (consistent : s.Consistent) :
    (∃ t, EvictionRound s t) ↔ s.maxEntries < s.count := by
  constructor
  · rintro ⟨t, round⟩
    cases round with
    | evict _ overfull _ => exact overfull
  · intro overfull
    obtain ⟨v, _, named, _⟩ := consistent.round_removes overfull 0
    exact ⟨_, .evict 0 overfull named⟩

/-- With fuel for every round, the store's eviction runs rounds at one clock reading until the
store fits its bound. The fuel needed is how far the store is over its bound, since each round
drops the count by one. -/
theorem Consistent.evict_run (now : Nat) :
    ∀ (fuel : Nat) {s : Store}, s.Consistent → s.count - s.maxEntries ≤ fuel →
      EvictionRun s (evict now fuel s) ∧ (evict now fuel s).count ≤ s.maxEntries
  | 0, s, _, enough => by
      rw [evict]
      exact ⟨.refl, by omega⟩
  | fuel + 1, s, consistent, enough => by
      by_cases overfull : s.maxEntries < s.count
      · obtain ⟨v, hv, named, _, dropped⟩ := consistent.round_removes overfull now
        have next : evict now (fuel + 1) s = evict now fuel (s.removeSlot (Slot.ofEntry v)) := by
          simp [evict, overfull, named]
        have rest := Consistent.evict_run now fuel (consistent.removeSlot hv)
          (by rw [removeSlot_maxEntries]; omega)
        rw [next]
        exact ⟨.head (.evict now overfull named) rest.1, by simpa using rest.2⟩
      · rw [evict_of_le now (fuel + 1) (Nat.not_lt.mp overfull)]
        exact ⟨.refl, Nat.not_lt.mp overfull⟩

/-- What the eviction loop of adding `e` to `s` at `now` does. -/
structure EvictsAtMostOnce (s : Store) (now : Nat) (e : Entry) : Prop where
  /-- Every round the loop starts, whatever the clock reads, finds the slot of an entry stored
  with that sequence; removing it takes out exactly that entry and drops the count by one. -/
  round_removes : ∀ t, EvictionRun (s.insertEntry e) t → t.maxEntries < t.count → ∀ clock,
    ∃ v ∈ t.entries, t.index.victim clock = some (Slot.ofEntry v) ∧
      (t.removeSlot (Slot.ofEntry v)).entries = t.entries.erase v ∧
      (t.removeSlot (Slot.ofEntry v)).count + 1 = t.count
  /-- No round follows the first. -/
  no_second_round : ∀ t u, EvictionRound (s.insertEntry e) t → ¬EvictionRound t u
  /-- The add's own loop is a run of such rounds, at the store's clock... -/
  add_runs_rounds : EvictionRun (s.insertEntry e) (s.add now e)
  /-- ...that ends within the bound. -/
  add_within : (s.add now e).count ≤ s.maxEntries

/-- The eviction loop terminates: from every store that a sequence of calls reaches with a bound,
each round of an add's eviction loop removes the stored entry its victim slot names and drops the
count by one, the loop runs at most one round, and it ends within the bound. -/
theorem Reachable.evictsAtMostOnce {s : Store} (reachable : s.Reachable)
    (bounded : 0 < s.maxEntries) (now : Nat) (e : Entry) : s.EvictsAtMostOnce now e := by
  have coherent := reachable.coherent
  have start := coherent.toConsistent.insertEntry e
  have grown : (s.insertEntry e).count ≤ s.maxEntries + 1 := by
    have := insertEntry_count_le s e
    have := coherent.within bounded
    omega
  refine ⟨fun t run overfull clock => (run.consistent start).round_removes overfull clock,
    ?_, ?_, ?_⟩
  · intro t u first second
    have dropped := first.count_succ start
    have same := first.maxEntries_eq
    cases second with
    | evict _ overfull _ =>
        rw [same, insertEntry_maxEntries] at overfull
        omega
  · rw [add_eq, if_neg (Nat.pos_iff_ne_zero.mp bounded)]
    exact (start.evict_run _ _ (Nat.sub_le _ _)).1
  · rw [add_eq, if_neg (Nat.pos_iff_ne_zero.mp bounded)]
    exact (start.evict_run _ _ (Nat.sub_le _ _)).2

/-- A store bounded to one entry and holding one is reachable, so adding a second resource runs
its eviction loop at most once. -/
theorem second_add_evicts_at_most_once :
    let first : Entry :=
      { uri := "/a", media := Media.MediaType.octetStream, headers := {}, body := [],
        etag := "v1", maxAge := 10, expiresAt := 10, vary := {}, sequence := 0 }
    let second : Entry := { first with uri := "/b", sequence := 1 }
    let s := (Store.bounded 1).add 0 first
    s.Reachable ∧ 0 < s.maxEntries ∧ s.EvictsAtMostOnce 0 second := by
  intro first second s
  have reachable : s.Reachable := ⟨1, none, .single (.add _ _ _)⟩
  have bounded : 0 < s.maxEntries := by
    show 0 < ((Store.bounded 1).add 0 first).maxEntries
    rw [add_maxEntries]
    exact Nat.one_pos
  exact ⟨reachable, bounded, reachable.evictsAtMostOnce bounded 0 second⟩

end Store

end Cache
end ResponseCache
