import ResponseCache.Cache.Concurrent
import ResponseCache.Proofs.Cache.StoreInvariant
import Mathlib.Data.List.Perm.Subperm
/-!
# What the calls in flight owe the store

While calls are in flight the count and the index lag behind the map: an add has stored its entry
but not yet indexed or counted it, a remove has forgotten entries still in the map, an eviction
has taken its victim out of the map but not yet out of the index and the count. What each call
owes is read off the call itself, as four lists:

* `uncounted`: entries in the map that the count leaves out;
* `unmapped`: entries the count includes that are out of the map;
* `missing`: entries in the map whose slots are not in the index;
* `extra`: entries out of the map whose slots are still in the index.

The count is then the number of entries less the uncounted plus the unmapped, and the index
mirrors the `ledger`: the entries less the missing, plus the extra. Everything a call owes lies in
the shard whose guard it holds (`Call.Fits.guard_eq`), so calls under different guards owe
different resources. `Accounted` collects these facts for a whole system; from it follow that the
count is never negative, that a store with no call in flight is exact, and that an index with no
slot left, loaded while no call holds the index mutex, leaves nothing to count.
-/

namespace ResponseCache
namespace Cache

theorem Entry.uri_eq_of_mapKey_eq {a b : Entry} (same : a.mapKey = b.mapKey) : a.uri = b.uri :=
  congrArg Prod.fst same

namespace Call

/-- Entries in the map that the count leaves out: an add's new entry before it is counted, and
entries a remove has counted out but not yet taken out of the map. -/
def uncounted : Call → List Entry
  | addIndex e none | addCount e none => [e]
  | erase gone _ => gone
  | _ => []

/-- Entries the count still includes though they are out of the map: an evicted victim or purged
entries, between leaving the map and lowering the count. -/
def unmapped : Call → List Entry
  | forgetIndex gone next | forgetCount gone next => if next.taken then gone else []
  | _ => []

/-- Entries in the map whose slots are not in the index. -/
def missing : Call → List Entry
  | addIndex e _ => [e]
  | forgetCount gone next => if next.taken then [] else gone
  | erase gone _ => gone
  | _ => []

/-- Entries out of the map whose slots are still in the index. -/
def extra : Call → List Entry
  | addIndex _ previous => previous.toList
  | forgetIndex gone next => if next.taken then gone else []
  | _ => []

/-- Everything a call owes the count and the index. -/
def owed (c : Call) : List Entry := c.uncounted ++ c.unmapped ++ c.missing ++ c.extra

theorem mem_owed {c : Call} {x : Entry} :
    x ∈ c.owed ↔
      x ∈ c.uncounted ∨ x ∈ c.unmapped ∨ x ∈ c.missing ∨ x ∈ c.extra := by
  simp only [owed, List.mem_append, or_assoc]

/-- Only a call that holds the index mutex owes the index less than it owes the count: every
other call has either indexed no more than it counted, or counted no more than it indexed. -/
theorem owing_le_of_unlocked {c : Call} (unlocked : c.locksIndex = false) :
    c.missing.length + c.unmapped.length ≤ c.uncounted.length + c.extra.length := by
  cases c with
  | addIndex e previous => cases previous <;> simp [missing, unmapped, uncounted, extra]
  | forgetIndex gone next => cases next <;> simp [missing, unmapped, uncounted, extra, Resume.taken]
  | forgetCount gone next => simp [locksIndex] at unlocked
  | _ => simp [missing, unmapped, uncounted, extra]

end Call

section Ledger

variable (sharding : Sharding)

/-- Entries a call has taken out of the map, all of shard `s`: at most one per place, and none at
the place of a stored entry. -/
structure TakenOut (entries gone : List Entry) (s : Nat) : Prop where
  /-- They all lie in the shard. -/
  inShard : ∀ g ∈ gone, sharding.shard g.uri = s
  /-- At most one per place. -/
  unique : UniqueKeys gone
  /-- No stored entry is at their place. -/
  away : ∀ g ∈ gone, ∀ x ∈ entries, x.mapKey ≠ g.mapKey

/-- The stored entries of the resource `uri`, each listed once. -/
structure Gathered (entries gone : List Entry) (uri : String) : Prop where
  /-- Each is listed once. -/
  nodup : gone.Nodup
  /-- They are the stored entries of the resource. -/
  mem : ∀ x, x ∈ gone ↔ x ∈ entries ∧ x.uri = uri

/-- What a call accounting for `gone` knows of them: a victim or purged entries are out of the map,
the entries of a removed or cleared resource are all of its stored ones. -/
def Resume.Fits (entries gone : List Entry) : Resume → Prop
  | .evict uri => TakenOut sharding entries gone (sharding.shard uri)
  | .purge _ shard _ => TakenOut sharding entries gone shard
  | .remove uri => Gathered entries gone uri
  | .clear uri shard => sharding.shard uri = shard ∧ Gathered entries gone uri

/-- What a call in flight knows of the stored entries. -/
def Call.Fits (entries : List Entry) : Call → Prop
  | .addIndex e previous | .addCount e previous =>
      e ∈ entries ∧ ∀ p ∈ previous, p.mapKey = e.mapKey
  | .forgetIndex gone next | .forgetCount gone next => next.Fits sharding entries gone
  | .erase gone next => next.taken = false ∧ next.Fits sharding entries gone
  | _ => True

/-- Two calls in flight do not hold the same guard. -/
def Call.Apart (a b : Call) : Prop :=
  ∀ s, a.guard sharding = some s → b.guard sharding ≠ some s

/-- At most one of two calls holds the index mutex. -/
def Call.IndexApart (a b : Call) : Prop := a.locksIndex = false ∨ b.locksIndex = false

theorem Call.Apart.symm {a b : Call} (apart : a.Apart sharding b) : b.Apart sharding a :=
  fun s held other => apart s other held

theorem Call.IndexApart.symm {a b : Call} (apart : a.IndexApart b) : b.IndexApart a :=
  Or.symm apart

variable {sharding}

theorem Resume.Fits.guard_eq {entries gone : List Entry} {next : Resume}
    (fits : next.Fits sharding entries gone) {g : Entry} (hg : g ∈ gone) :
    next.guard sharding = sharding.shard g.uri := by
  cases next with
  | evict uri => exact (fits.inShard g hg).symm
  | purge cutoff shard visited => exact (fits.inShard g hg).symm
  | remove uri => rw [Resume.guard, ((fits.mem g).mp hg).2]
  | clear uri shard => rw [Resume.guard, ← fits.1, ((fits.2.mem g).mp hg).2]

/-- Everything a call owes lies in the shard whose guard it holds. -/
theorem Call.Fits.guard_eq {entries : List Entry} {c : Call} (fits : c.Fits sharding entries)
    {x : Entry} (owing : x ∈ c.owed) : c.guard sharding = some (sharding.shard x.uri) := by
  cases c with
  | addIndex e previous =>
      have hx : x = e ∨ x ∈ previous.toList := by
        cases previous <;> simpa [owed, uncounted, unmapped, missing, extra] using owing
      rcases hx with rfl | replaced
      · rfl
      · have place := fits.2 x (Option.mem_def.mpr (Option.mem_toList.mp replaced))
        rw [guard, Entry.uri_eq_of_mapKey_eq place]
  | addCount e previous =>
      obtain rfl : x = e := by
        cases previous <;> simp [owed, uncounted, unmapped, missing, extra] at owing
        exact owing
      rfl
  | forgetIndex gone next | forgetCount gone next =>
      have hx : x ∈ gone := by
        cases taken : next.taken <;> simp_all [owed, uncounted, unmapped, missing, extra]
      exact congrArg some (Resume.Fits.guard_eq fits hx)
  | erase gone next =>
      have hx : x ∈ gone := by simpa [owed, uncounted, unmapped, missing, extra] using owing
      exact congrArg some (Resume.Fits.guard_eq fits.2 hx)
  | _ => simp [owed, uncounted, unmapped, missing, extra] at owing

/-- Calls under different guards owe different resources. -/
theorem Call.Apart.uri_ne {a b : Call} (apart : a.Apart sharding b) {entries others : List Entry}
    (fa : a.Fits sharding entries) (fb : b.Fits sharding others) {x y : Entry} (hx : x ∈ a.owed)
    (hy : y ∈ b.owed) : x.uri ≠ y.uri := by
  intro same
  apply apart _ (fa.guard_eq hx)
  rw [fb.guard_eq hy, same]

theorem Call.Fits.uniqueKeys_extra {entries : List Entry} {c : Call}
    (fits : c.Fits sharding entries) : UniqueKeys c.extra := by
  cases c with
  | addIndex e previous => cases previous <;> simp [extra, UniqueKeys]
  | forgetIndex gone next =>
      cases next with
      | evict uri | purge cutoff shard visited => exact fits.unique
      | remove uri | clear uri shard => simp [extra, Resume.taken, UniqueKeys]
  | _ => simp [extra, UniqueKeys]

theorem Call.Fits.nodup_uncounted {entries : List Entry} {c : Call}
    (fits : c.Fits sharding entries) : c.uncounted.Nodup := by
  cases c with
  | addIndex e previous | addCount e previous => cases previous <;> simp [uncounted]
  | erase gone next =>
      obtain ⟨kept, gathered⟩ := fits
      cases next with
      | remove uri => exact gathered.nodup
      | clear uri shard => exact gathered.2.nodup
      | evict uri | purge cutoff shard visited => simp [Resume.taken] at kept
  | _ => simp [uncounted]

/-- What the count leaves out is in the map. -/
theorem Call.Fits.mem_of_uncounted {entries : List Entry} {c : Call}
    (fits : c.Fits sharding entries) {x : Entry} (hx : x ∈ c.uncounted) : x ∈ entries := by
  cases c with
  | addIndex e previous | addCount e previous =>
      cases previous <;> simp only [uncounted, List.mem_singleton, List.not_mem_nil] at hx
      rw [hx]
      exact fits.1
  | erase gone next =>
      obtain ⟨kept, gathered⟩ := fits
      cases next with
      | remove uri => exact ((gathered.mem x).mp hx).1
      | clear uri shard => exact ((gathered.2.mem x).mp hx).1
      | evict uri | purge cutoff shard visited => simp [Resume.taken] at kept
  | _ => simp [uncounted] at hx

/-- A stored entry at the place of one the index still holds for a call is one that call has yet to
index: the entry an add stored in place of the one it replaced. -/
theorem Call.Fits.mem_missing_of_extra {entries : List Entry} {c : Call}
    (unique : UniqueKeys entries) (fits : c.Fits sharding entries) {x y : Entry}
    (hx : x ∈ c.extra) (hy : y ∈ entries) (same : y.mapKey = x.mapKey) : y ∈ c.missing := by
  cases c with
  | addIndex e previous =>
      have replaced : x ∈ previous := Option.mem_def.mpr (Option.mem_toList.mp hx)
      rw [unique.eq_of_mapKey_eq hy fits.1 (same.trans (fits.2 x replaced))]
      simp [missing]
  | forgetIndex gone next =>
      cases next with
      | evict uri | purge cutoff shard visited => exact absurd same (fits.away x hx y hy)
      | remove uri | clear uri shard => simp [extra, Resume.taken] at hx
  | _ => simp [extra] at hx

/-- A call owes nothing in a shard whose guard it does not hold. -/
theorem Call.Fits.not_owed {entries : List Entry} {c : Call} (fits : c.Fits sharding entries)
    {x : Entry} (other : c.guard sharding ≠ some (sharding.shard x.uri)) : x ∉ c.owed :=
  fun owing => other (fits.guard_eq owing)

/-- The gathered entries of a resource are its stored entries, in some order. -/
theorem Gathered.perm {entries gone : List Entry} {uri : String}
    (gathered : Gathered entries gone uri) (unique : UniqueKeys entries) :
    gone.Perm (entries.filter (·.uri == uri)) := by
  apply (List.perm_ext_iff_of_nodup gathered.nodup (unique.nodup.filter _)).mpr
  intro x
  rw [gathered.mem, List.mem_filter, beq_iff_eq]

/-- The stored entries of a resource, picked out by a filter, are gathered. -/
theorem Gathered.of_filter {entries : List Entry} (unique : UniqueKeys entries) (uri : String) :
    Gathered entries (entries.filter (·.uri == uri)) uri where
  nodup := unique.nodup.filter _
  mem x := by rw [List.mem_filter, beq_iff_eq]

/-- Taking a resource out of the map takes out as many entries as were gathered for it. -/
theorem Gathered.length_filter {entries gone : List Entry} {uri : String}
    (gathered : Gathered entries gone uri) (unique : UniqueKeys entries) :
    (entries.filter (·.uri != uri)).length + gone.length = entries.length := by
  have split := entries.length_eq_length_filter_add (·.uri == uri)
  have kept : entries.filter (·.uri != uri) = entries.filter fun a => !(a.uri == uri) := rfl
  rw [(gathered.perm unique).length_eq, kept]
  omega

/-- Taking a resource out of the map keeps the stored entries not gathered for it. -/
theorem Gathered.mem_filter {entries gone : List Entry} {uri : String}
    (gathered : Gathered entries gone uri) (x : Entry) :
    x ∈ entries.filter (·.uri != uri) ↔ x ∈ entries ∧ x ∉ gone := by
  rw [List.mem_filter, gathered.mem, bne_iff_ne, ne_eq, not_and]
  constructor
  · intro kept
    exact ⟨kept.1, fun _ => kept.2⟩
  · intro kept
    exact ⟨kept.1, kept.2 kept.1⟩

/-- Which entries of a resource are stored depends on no other resource. -/
theorem Gathered.frame {entries entries' gone : List Entry} {uri : String}
    (gathered : Gathered entries gone uri)
    (agree : ∀ x, x.uri = uri → (x ∈ entries' ↔ x ∈ entries)) :
    Gathered entries' gone uri where
  nodup := gathered.nodup
  mem x := by
    rw [gathered.mem]
    constructor
    · rintro ⟨stored, rfl⟩
      exact ⟨(agree x rfl).mpr stored, rfl⟩
    · rintro ⟨stored, rfl⟩
      exact ⟨(agree x rfl).mp stored, rfl⟩

/-- Entries taken out of a shard stay out while the shard is left alone. -/
theorem TakenOut.frame {entries entries' gone : List Entry} {s : Nat}
    (taken : TakenOut sharding entries gone s)
    (agree : ∀ x, sharding.shard x.uri = s → (x ∈ entries' ↔ x ∈ entries)) :
    TakenOut sharding entries' gone s where
  inShard := taken.inShard
  unique := taken.unique
  away g hg x hx same := by
    have inShard : sharding.shard x.uri = s := by
      rw [Entry.uri_eq_of_mapKey_eq same, taken.inShard g hg]
    exact taken.away g hg x ((agree x inShard).mp hx) same

/-- The entries a filter takes out of the map are out of it, at most one per place. -/
theorem TakenOut.of_filter {entries : List Entry} (unique : UniqueKeys entries)
    {drop : Entry → Bool} {s : Nat}
    (inShard : ∀ x ∈ entries, drop x = true → sharding.shard x.uri = s) :
    TakenOut sharding (entries.filter fun x => !drop x) (entries.filter drop) s where
  inShard g hg := inShard g (List.mem_filter.mp hg).1 (List.mem_filter.mp hg).2
  unique := unique.filter drop
  away g hg y hy same := by
    have dropped := List.mem_filter.mp hg
    have kept := List.mem_filter.mp hy
    rw [unique.eq_of_mapKey_eq kept.1 dropped.1 same, dropped.2] at kept
    exact Bool.false_ne_true kept.2

theorem TakenOut.of_perm {entries gone gone' : List Entry} {s : Nat}
    (taken : TakenOut sharding entries gone s) (perm : gone'.Perm gone) :
    TakenOut sharding entries gone' s where
  inShard g hg := taken.inShard g (perm.mem_iff.mp hg)
  unique := (perm.map Entry.mapKey).nodup_iff.mpr taken.unique
  away g hg := taken.away g (perm.mem_iff.mp hg)

theorem Resume.Fits.frame {entries entries' gone : List Entry} {next : Resume}
    (fits : next.Fits sharding entries gone)
    (agree : ∀ x, next.guard sharding = sharding.shard x.uri →
      (x ∈ entries' ↔ x ∈ entries)) :
    next.Fits sharding entries' gone := by
  cases next with
  | evict uri => exact TakenOut.frame fits fun x inShard => agree x inShard.symm
  | purge cutoff shard visited => exact TakenOut.frame fits fun x inShard => agree x inShard.symm
  | remove uri => exact Gathered.frame fits fun x same => agree x (by rw [same]; rfl)
  | clear uri shard =>
      refine ⟨fits.1, Gathered.frame fits.2 fun x same => agree x ?_⟩
      rw [same, fits.1]
      rfl

/-- A call's view of the entries depends only on the shard whose guard it holds. -/
theorem Call.Fits.frame {entries entries' : List Entry} {c : Call} (fits : c.Fits sharding entries)
    (agree : ∀ x, c.guard sharding = some (sharding.shard x.uri) →
      (x ∈ entries' ↔ x ∈ entries)) :
    c.Fits sharding entries' := by
  cases c with
  | addIndex e previous | addCount e previous => exact ⟨(agree e rfl).mpr fits.1, fits.2⟩
  | forgetIndex gone next | forgetCount gone next =>
      exact Resume.Fits.frame fits fun x held => agree x (congrArg some held)
  | erase gone next =>
      exact ⟨fits.1, Resume.Fits.frame fits.2 fun x held => agree x (congrArg some held)⟩
  | _ => trivial

end Ledger

/-- The entries whose slots the index holds while `calls` are in flight: the stored entries no call
has yet to index, and the entries out of the map some call has yet to take out of the index. -/
def ledger (entries : List Entry) (calls : List Call) : List Entry :=
  entries.filter (fun x => calls.all fun c => decide (x ∉ c.missing)) ++ calls.flatMap Call.extra

theorem mem_ledger {entries : List Entry} {calls : List Call} {x : Entry} :
    x ∈ ledger entries calls ↔
      (x ∈ entries ∧ ∀ c ∈ calls, x ∉ c.missing) ∨ ∃ c ∈ calls, x ∈ c.extra := by
  simp [ledger]

@[simp]
theorem ledger_nil (entries : List Entry) : ledger entries [] = entries := by
  simp [ledger]

/-- What every reachable system keeps: the entries sit at distinct places, the calls hold distinct
guards and, in a bounded store, at most one holds the index mutex; each call's view of the entries
is right; the count and the index are off from the entries by exactly what the calls owe; and the
count exceeds a bound only while some add has yet to check it. -/
structure Accounted (sharding : Sharding) (sys : System) : Prop where
  /-- At most one entry per place. -/
  unique : UniqueKeys sys.shared.entries
  /-- No two calls hold the same guard. -/
  apart : sys.calls.Pairwise (Call.Apart sharding)
  /-- In a bounded store, at most one call holds the index mutex. -/
  exclusive : 0 < sys.shared.maxEntries → sys.calls.Pairwise Call.IndexApart
  /-- Each call's view of the entries is right. -/
  fits : ∀ c ∈ sys.calls, c.Fits sharding sys.shared.entries
  /-- The count is the number of entries, less what it leaves out, plus what it still includes. -/
  count_eq : sys.shared.count + (sys.calls.flatMap Call.uncounted).length =
    sys.shared.entries.length + (sys.calls.flatMap Call.unmapped).length
  /-- The index mirrors the ledger. -/
  mirrors : sys.shared.index.Mirrors (ledger sys.shared.entries sys.calls)
  /-- A count over the bound has an add in flight that has yet to check it. -/
  checked : 0 < sys.shared.maxEntries →
    sys.shared.count ≤ sys.shared.maxEntries ∨ ∃ c ∈ sys.calls, c.evicts = true

namespace Accounted

variable {sharding : Sharding} {sys : System}

/-- Calls under different guards owe different entries. -/
theorem not_owed {a b : Call} (accounted : Accounted sharding sys) (ha : a ∈ sys.calls)
    (hb : b ∈ sys.calls) (apart : a.Apart sharding b) {x : Entry} (hx : x ∈ a.owed) :
    x ∉ b.owed := fun hy =>
  apart.uri_ne (accounted.fits a ha) (accounted.fits b hb) hx hy rfl

/-- What the count leaves out is in the map, each entry once. -/
theorem uncounted_subperm (accounted : Accounted sharding sys) :
    (sys.calls.flatMap Call.uncounted).Subperm sys.shared.entries := by
  apply List.Nodup.subperm
  · refine List.nodup_flatMap.mpr ⟨fun c hc => (accounted.fits c hc).nodup_uncounted, ?_⟩
    refine accounted.apart.imp_of_mem fun ha hb apart x hx hy => ?_
    exact accounted.not_owed ha hb apart (Call.mem_owed.mpr (.inl hx))
      (Call.mem_owed.mpr (.inl hy))
  · intro x hx
    obtain ⟨c, hc, owing⟩ := List.mem_flatMap.mp hx
    exact (accounted.fits c hc).mem_of_uncounted owing

/-- The count never goes below zero. -/
theorem count_nonneg (accounted : Accounted sharding sys) : 0 ≤ sys.shared.count := by
  have within := accounted.uncounted_subperm.length_le
  have balance := accounted.count_eq
  omega

/-- No two entries of the ledger sit at the same place. -/
theorem unique_ledger (accounted : Accounted sharding sys) :
    UniqueKeys (ledger sys.shared.entries sys.calls) := by
  unfold UniqueKeys ledger
  rw [List.map_append, List.nodup_append, List.map_flatMap]
  refine ⟨accounted.unique.filter _, ?extras, ?apart⟩
  case extras =>
    refine List.nodup_flatMap.mpr ⟨fun c hc => (accounted.fits c hc).uniqueKeys_extra, ?_⟩
    refine accounted.apart.imp_of_mem fun ha hb apart k hx hy => ?_
    simp only [List.mem_map] at hx hy
    obtain ⟨x, hx, rfl⟩ := hx
    obtain ⟨y, hy, same⟩ := hy
    exact apart.uri_ne (accounted.fits _ ha) (accounted.fits _ hb)
      (Call.mem_owed.mpr (.inr (.inr (.inr hx)))) (Call.mem_owed.mpr (.inr (.inr (.inr hy))))
      (Entry.uri_eq_of_mapKey_eq same).symm
  case apart =>
    simp only [List.mem_map, List.mem_filter, List.all_eq_true, decide_eq_true_eq,
      List.mem_flatMap]
    rintro _ ⟨y, ⟨hy, indexed⟩, rfl⟩ _ ⟨c, hc, x, hx, rfl⟩ same
    exact indexed c hc ((accounted.fits c hc).mem_missing_of_extra accounted.unique hx hy same)

/-- Summed over the calls, only the holder of the index mutex owes the index less than the count. -/
theorem owing_le {calls : List Call} (unlocked : ∀ c ∈ calls, c.locksIndex = false) :
    (calls.flatMap Call.missing).length + (calls.flatMap Call.unmapped).length ≤
      (calls.flatMap Call.uncounted).length + (calls.flatMap Call.extra).length := by
  induction calls with
  | nil => simp
  | cons c rest ih =>
      have own := Call.owing_le_of_unlocked (unlocked c List.mem_cons_self)
      have later := ih fun d hd => unlocked d (List.mem_cons_of_mem c hd)
      simp only [List.flatMap_cons, List.length_append]
      omega

/-- An index with no slot left, seen while no call holds the index mutex, leaves nothing to count:
every stored entry is one some call has yet to index, and such a call has not counted it. -/
theorem count_nonpos_of_drained (accounted : Accounted sharding sys)
    (drained : sys.shared.index.bySequence = [])
    (unlocked : ∀ c ∈ sys.calls, c.locksIndex = false) : sys.shared.count ≤ 0 := by
  have empty : ∀ x ∈ ledger sys.shared.entries sys.calls, False := fun x hx => by
    have slot := (accounted.mirrors.mem_bySequence (Slot.ofEntry x)).mpr ⟨x, hx, rfl⟩
    simp [drained] at slot
  have covered : sys.shared.entries ⊆ sys.calls.flatMap Call.missing := by
    intro y hy
    by_contra unowed
    refine empty y (mem_ledger.mpr (.inl ⟨hy, fun c hc owing => unowed ?_⟩))
    exact List.mem_flatMap.mpr ⟨c, hc, owing⟩
  have noExtra : (sys.calls.flatMap Call.extra).length = 0 := by
    rw [List.length_eq_zero_iff, List.eq_nil_iff_forall_not_mem]
    intro x hx
    obtain ⟨c, hc, owing⟩ := List.mem_flatMap.mp hx
    exact empty x (mem_ledger.mpr (.inr ⟨c, hc, owing⟩))
  have stored := (accounted.unique.nodup.subperm covered).length_le
  have owing := owing_le unlocked
  have balance := accounted.count_eq
  omega

/-- The calls in flight can be listed in any order. -/
theorem perm {sh : Shared} {calls calls' : List Call}
    (accounted : Accounted sharding ⟨sh, calls⟩) (perm : calls.Perm calls') :
    Accounted sharding ⟨sh, calls'⟩ where
  unique := accounted.unique
  apart := (perm.pairwise_iff fun apart => Call.Apart.symm sharding apart).mp accounted.apart
  exclusive bounded :=
    (perm.pairwise_iff fun apart => Call.IndexApart.symm apart).mp (accounted.exclusive bounded)
  fits c hc := accounted.fits c (perm.mem_iff.mpr hc)
  count_eq := by
    have uncounted := (perm.flatMap_right Call.uncounted).length_eq
    have unmapped := (perm.flatMap_right Call.unmapped).length_eq
    have balance := accounted.count_eq
    simp only at balance ⊢
    omega
  mirrors := accounted.mirrors.congr fun x => by
    simp only [mem_ledger, perm.mem_iff]
  checked bounded := by
    simpa only [perm.mem_iff] using accounted.checked bounded

end Accounted

end Cache
end ResponseCache
