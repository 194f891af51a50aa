import ResponseCache.Proofs.Cache.ConcurrentLedger
/-!
# Every step keeps the accounts

One atomic step of a call changes the map only in the shard whose guard the call holds or takes,
and changes only what that call owes; no other call holds that shard, so no other call's view of
the entries or its debts change with it. The lemmas of `CallStep` read each aspect of a step off
its rule: the guard and the lock it may hold after it, what it knows after it, where it changes
the map, how the count and the index move against what it owes. `Accounted.run_cons` assembles
them into one step of the whole system.
-/

namespace ResponseCache
namespace Cache

theorem storeEntry_eq (entries : List Entry) (e : Entry) :
    storeEntry entries e = (Store.insertEntry { entries } e).entries := rfl

theorem mem_storeEntry {entries : List Entry} {e x : Entry} :
    x ∈ storeEntry entries e ↔ x = e ∨ x ∈ entries ∧ x.mapKey ≠ e.mapKey := by
  rw [storeEntry_eq]
  exact Store.mem_insertEntry

theorem unique_storeEntry {entries : List Entry} (unique : UniqueKeys entries) (e : Entry) :
    UniqueKeys (storeEntry entries e) := by
  rw [storeEntry_eq]
  exact Store.insertEntry_unique unique e

theorem length_storeEntry (entries : List Entry) (e : Entry) :
    (storeEntry entries e).length + (entries.find? (Store.sameVariant e.uri e.key)).toList.length =
      entries.length + 1 := by
  unfold storeEntry
  cases entries.find? (Store.sameVariant e.uri e.key) <;> simp

theorem mem_filter_of_keep {entries : List Entry} {keep : Entry → Bool} {x : Entry}
    (kept : keep x = true) : x ∈ entries.filter keep ↔ x ∈ entries := by
  rw [List.mem_filter, kept]
  exact and_iff_left rfl

namespace EvictionIndex

/-- The index with the slots of `dropped` taken out, then those of `added` put in. -/
def revise (ix : EvictionIndex) (dropped added : List Entry) : EvictionIndex :=
  added.foldl insert (dropped.foldl erase ix)

theorem replace_eq_revise (ix : EvictionIndex) (e : Entry) (previous : Option Entry) :
    ix.replace e previous = ix.revise previous.toList [e] := by
  cases previous <;> rfl

/-- With no victim to pick, the index holds no slot. -/
theorem bySequence_eq_nil_of_victim {ix : EvictionIndex} {now : Nat}
    (none : ix.victim now = none) : ix.bySequence = [] := by
  unfold victim at none
  split at none
  · split at none
    · cases none
    · exact List.head?_eq_none_iff.mp none
  · exact List.head?_eq_none_iff.mp none

namespace Mirrors

variable {ix : EvictionIndex} {entries : List Entry}

theorem foldl_insert (mirrors : ix.Mirrors entries) (added : List Entry) :
    (added.foldl EvictionIndex.insert ix).Mirrors (added.reverse ++ entries) := by
  induction added generalizing ix entries with
  | nil => exact mirrors
  | cons e rest ih =>
      rw [List.foldl_cons, List.reverse_cons, List.append_assoc]
      exact ih (mirrors.insert e)

/-- Taking out slots of mirrored entries and putting in new ones mirrors the entries so changed. -/
theorem revise (mirrors : ix.Mirrors entries) (unique : UniqueKeys entries)
    {dropped added : List Entry} (held : ∀ g ∈ dropped, g ∈ entries) {other : List Entry}
    (same : ∀ x, x ∈ other ↔ x ∈ added ∨ (x ∈ entries ∧ x ∉ dropped)) :
    (ix.revise dropped added).Mirrors other := by
  have erased : (dropped.foldl erase ix).Mirrors (entries.filter fun x => decide (x ∉ dropped)) :=
    mirrors.forget unique fun g => by
      rw [decide_eq_false_iff_not, not_not]
      exact ⟨fun hg => ⟨held g hg, hg⟩, And.right⟩
  refine (erased.foldl_insert added).congr fun x => ?_
  rw [same, List.mem_append, List.mem_reverse, List.mem_filter, decide_eq_true_eq]

end Mirrors

end EvictionIndex

@[simp]
theorem mem_ledger_singleton {entries : List Entry} {c : Call} {x : Entry} :
    x ∈ ledger entries [c] ↔ (x ∈ entries ∧ x ∉ c.missing) ∨ x ∈ c.extra := by
  simp [mem_ledger]

/-- An entry of a call's own share of the ledger that no other call has yet to index is in the
ledger of them all. -/
theorem mem_ledger_cons {entries : List Entry} {c : Call} {others : List Call} {x : Entry}
    (own : x ∈ ledger entries [c]) (indexed : ∀ o ∈ others, x ∉ o.missing) :
    x ∈ ledger entries (c :: others) := by
  rw [mem_ledger_singleton] at own
  rw [mem_ledger, List.forall_mem_cons]
  rcases own with ⟨stored, mine⟩ | extra
  · exact .inl ⟨stored, mine, indexed⟩
  · exact .inr ⟨c, List.mem_cons_self, extra⟩

/-- A step that changes only what the stepping call owes changes the ledger of all the calls as it
changes the call's own share, as long as no other call owes what the step touches. -/
theorem mem_ledger_step {entries entries' : List Entry} {c : Call} {now others : List Call}
    {dropped added : List Entry}
    (own : ∀ x, x ∈ ledger entries' now ↔
      x ∈ added ∨ (x ∈ ledger entries [c] ∧ x ∉ dropped))
    (separate : ∀ x,
      (x ∈ dropped ∨ x ∈ added ∨ x ∈ c.extra ∨ ∃ n ∈ now, x ∈ n.extra) →
        ∀ o ∈ others, x ∉ o.missing ∧ x ∉ o.extra)
    (x : Entry) :
    x ∈ ledger entries' (now ++ others) ↔
      x ∈ added ∨ (x ∈ ledger entries (c :: others) ∧ x ∉ dropped) := by
  by_cases elsewhere : ∃ o ∈ others, x ∈ o.missing ∨ x ∈ o.extra
  · obtain ⟨o, ho, owing⟩ := elsewhere
    have untouched :
        ¬(x ∈ dropped ∨ x ∈ added ∨ x ∈ c.extra ∨ ∃ n ∈ now, x ∈ n.extra) := by
      intro touched
      have clear := separate x touched o ho
      tauto
    simp only [not_or, not_exists, not_and] at untouched
    simp only [mem_ledger, List.mem_append, List.mem_cons, forall_eq_or_imp, exists_eq_or_imp]
    grind
  · simp only [not_exists, not_and, not_or] at elsewhere
    have mine := own x
    simp only [mem_ledger, List.mem_append, List.mem_cons, forall_eq_or_imp,
      exists_eq_or_imp] at mine ⊢
    grind

/-- How a step moves the index: it takes out the slots of `dropped` and puts in those of `added`,
all of them owed by the call before or after the step, and the call's own share of the ledger
moves the same way. -/
structure Revision (c : Call) (entries : List Entry) (now : List Call) (entries' : List Entry)
    (ix ix' : EvictionIndex) (dropped added : List Entry) : Prop where
  /-- The index after the step. -/
  index_eq : ix' = ix.revise dropped added
  /-- The slots moved are of entries the call owes. -/
  owed : ∀ x, x ∈ dropped ∨ x ∈ added → x ∈ c.owed ∨ ∃ n ∈ now, x ∈ n.owed
  /-- The slots taken out are in the call's share. -/
  held : ∀ x ∈ dropped, x ∈ ledger entries [c]
  /-- The call's share moves as the index does. -/
  own : ∀ x, x ∈ ledger entries' now ↔
    x ∈ added ∨ (x ∈ ledger entries [c] ∧ x ∉ dropped)

/-- A step that leaves the index alone leaves the call's share of the ledger as it was. -/
theorem Revision.unchanged {c : Call} {entries entries' : List Entry} {now : List Call}
    {ix : EvictionIndex} (own : ∀ x, x ∈ ledger entries' now ↔ x ∈ ledger entries [c]) :
    Revision c entries now entries' ix ix [] [] where
  index_eq := rfl
  owed := by simp
  held := by simp
  own x := by rw [own]; simp

/-- Storing an entry leaves the index as it was: the new entry is the call's missing one, and the
one it replaced, out of the map now, its extra one. -/
theorem Revision.store {entries : List Entry} (unique : UniqueKeys entries) (e : Entry)
    {ix : EvictionIndex} :
    Revision (.add e) entries [.addIndex e (entries.find? (Store.sameVariant e.uri e.key))]
      (storeEntry entries e) ix ix [] [] := by
  refine .unchanged fun x => ?_
  simp only [mem_ledger_singleton, Call.missing, Call.extra, List.mem_singleton, List.not_mem_nil,
    not_false_eq_true, and_true, or_false]
  constructor
  · rintro (⟨stored, fresh⟩ | replaced)
    · rcases mem_storeEntry.mp stored with rfl | ⟨old, -⟩
      · exact absurd rfl fresh
      · exact old
    · exact List.mem_of_find?_eq_some (Option.mem_toList.mp replaced)
  · intro stored
    by_cases place : x.mapKey = e.mapKey
    · right
      have found := unique.find?_eq stored
      simp only [Entry.mapKey, Prod.mk.injEq] at place
      rw [Option.mem_toList, ← place.1, ← place.2, found]
    · refine .inl ⟨mem_storeEntry.mpr (.inr ⟨stored, place⟩), fun same => place ?_⟩
      rw [same]

/-- Indexing the new entry in place of the one it replaced settles what the add owed the index. -/
theorem Revision.replace {entries : List Entry} (unique : UniqueKeys entries) {e : Entry}
    {previous : Option Entry} (stored : e ∈ entries) (place : ∀ p ∈ previous, p.mapKey = e.mapKey)
    {ix : EvictionIndex} :
    Revision (.addIndex e previous) entries [.addCount e previous] entries ix
      (ix.replace e previous) previous.toList [e] := by
  refine ⟨EvictionIndex.replace_eq_revise .., ?_, ?_, fun x => ?_⟩
  · rintro x (replaced | new)
    · exact .inl (Call.mem_owed.mpr (.inr (.inr (.inr replaced))))
    · exact .inl (Call.mem_owed.mpr (.inr (.inr (.inl new))))
  · exact fun x replaced => mem_ledger_singleton.mpr (.inr replaced)
  have notStored : ∀ p ∈ previous.toList, p ≠ e → p ∉ entries :=
    fun p replaced other held =>
      other (unique.eq_of_mapKey_eq held stored (place p (Option.mem_toList.mp replaced)))
  simp only [mem_ledger_singleton, Call.missing, Call.extra, List.mem_singleton, List.not_mem_nil,
    not_false_eq_true, and_true, or_false]
  constructor
  · intro held
    by_cases new : x = e
    · exact .inl new
    · exact .inr ⟨.inl ⟨held, new⟩, fun replaced => notStored x replaced new held⟩
  · rintro (rfl | ⟨⟨held, -⟩ | replaced, kept⟩)
    · exact stored
    · exact held
    · exact absurd replaced kept

/-- Taking entries out of the map, to be forgotten next, leaves the index as it was: their slots
become the call's extra ones. -/
theorem Revision.take_out {c n : Call} {entries gone : List Entry} {ix : EvictionIndex}
    {drop : Entry → Bool} (owedBefore : c.missing = [] ∧ c.extra = [])
    (owedAfter : n.missing = [] ∧ n.extra = gone) (perm : gone.Perm (entries.filter drop)) :
    Revision c entries [n] (entries.filter fun x => !drop x) ix ix [] [] := by
  refine .unchanged fun x => ?_
  rw [mem_ledger_singleton, mem_ledger_singleton, owedBefore.1, owedBefore.2, owedAfter.1,
    owedAfter.2, perm.mem_iff]
  simp only [List.not_mem_nil, not_false_eq_true, and_true, or_false, List.mem_filter]
  cases drop x <;> simp

/-- Forgetting entries already out of the map takes their slots out of the index: they were the
call's extra slots. -/
theorem Revision.forget_taken {gone entries : List Entry} {ix : EvictionIndex} {next : Resume}
    (taken : next.taken = true) (away : ∀ g ∈ gone, ∀ x ∈ entries, x.mapKey ≠ g.mapKey) :
    Revision (.forgetIndex gone next) entries [.forgetCount gone next] entries ix
      (gone.foldl EvictionIndex.erase ix) gone [] where
  index_eq := rfl
  owed x owing := by
    simp only [List.not_mem_nil, or_false] at owing
    exact .inl (Call.mem_owed.mpr (.inr (.inr (.inr (by simpa [Call.extra, taken] using owing)))))
  held x owing := by simp [Call.extra, taken, owing]
  own x := by
    simp only [mem_ledger_singleton, Call.missing, Call.extra, taken, if_true, List.not_mem_nil,
      not_false_eq_true, and_true, false_or, or_false]
    constructor
    · exact fun stored => ⟨.inl stored, fun owing => away x owing x stored rfl⟩
    · rintro ⟨stored | owing, other⟩
      · exact stored
      · exact absurd owing other

/-- Forgetting entries still in the map takes their slots out of the index: the call has them yet
to take out of the map, and owes the index nothing for them. -/
theorem Revision.forget_stored {gone entries : List Entry} {ix : EvictionIndex} {next : Resume}
    (kept : next.taken = false) (stored : ∀ g ∈ gone, g ∈ entries) :
    Revision (.forgetIndex gone next) entries [.forgetCount gone next] entries ix
      (gone.foldl EvictionIndex.erase ix) gone [] where
  index_eq := rfl
  owed x owing := by
    simp only [List.not_mem_nil, or_false] at owing
    refine .inr ⟨_, List.mem_singleton_self _, Call.mem_owed.mpr (.inr (.inr (.inl ?_)))⟩
    simpa [Call.missing, kept] using owing
  held x owing := by simp [Call.missing, Call.extra, stored x owing]
  own x := by simp [Call.missing, Call.extra, kept]

namespace CallStep

variable {sharding : Sharding} {others : List Call} {c : Call} {sh sh' : Shared}
  {next : Option Call}

theorem maxEntries_eq (step : CallStep sharding others c sh next sh') :
    sh'.maxEntries = sh.maxEntries := by
  cases step <;> rfl

/-- Only the steps that change the map change the entries, and each keeps one entry per place. -/
theorem unique (step : CallStep sharding others c sh next sh') (unique : UniqueKeys sh.entries) :
    UniqueKeys sh'.entries := by
  cases step with
  | store e sh free => exact unique_storeEntry unique e
  | evict | removeErase | clearErase | purgeStored => exact unique.filter _
  | _ => exact unique

/-- After a step the call holds the guard it held before, or one no other call held. -/
theorem held_or_free (step : CallStep sharding others c sh next sh') :
    ∀ n ∈ next.toList, ∀ s, n.guard sharding = some s →
      c.guard sharding = some s ∨ GuardFree sharding others s := by
  cases step with
  | store e sh free | evict victim x sh free found current | removeStored uri sh free stored
  | clearShard shard sh inRange free | purgeShard cutoff shard sh inRange free =>
      simp only [Option.toList_some, List.mem_singleton, forall_eq, Call.guard, Resume.guard,
        Option.some.injEq]
      rintro s rfl
      exact .inr free
  | pick sh now free => cases sh.index.victim now <;> simp [Call.guard]
  | forgetCount gone next sh => cases next <;> simp [Resume.next, Call.guard, Resume.guard]
  | _ => simp [Call.guard, Resume.guard]

theorem guard_free (step : CallStep sharding others c sh next sh')
    (apart : ∀ o ∈ others, c.Apart sharding o) :
    ∀ n ∈ next.toList, ∀ s, n.guard sharding = some s → GuardFree sharding others s := by
  intro n hn s held
  rcases step.held_or_free n hn s held with mine | free
  · exact fun o ho => apart o ho s mine
  · exact free

/-- Only the step that takes the index mutex leaves the call holding it, and in a bounded store it
takes it from no other call. -/
theorem locks_free (step : CallStep sharding others c sh next sh') :
    ∀ n ∈ next.toList, n.locksIndex = true → IndexFree sh.maxEntries others := by
  cases step with
  | forgetIndex gone next sh free => exact fun _ _ _ => free
  | pick sh now free => cases sh.index.victim now <;> simp [Call.locksIndex]
  | forgetCount gone next sh => cases next <;> simp [Resume.next, Call.locksIndex]
  | _ => simp [Call.locksIndex]

/-- What the call knows after a step is right of the entries after it. -/
theorem fits_next (step : CallStep sharding others c sh next sh') (unique : UniqueKeys sh.entries)
    (fits : c.Fits sharding sh.entries) : ∀ n ∈ next.toList, n.Fits sharding sh'.entries := by
  cases step with
  | store e sh free =>
      simp only [Option.toList_some, List.mem_singleton, forall_eq]
      refine ⟨mem_storeEntry.mpr (.inl rfl), fun p found => ?_⟩
      exact Store.sameVariant_iff.mp (List.find?_some (Option.mem_def.mp found))
  | index | forgetIndex =>
      simp only [Option.toList_some, List.mem_singleton, forall_eq]
      exact fits
  | evict victim x sh free found current =>
      simp only [Option.toList_some, List.mem_singleton, forall_eq, Call.Fits, Resume.Fits]
      refine (TakenOut.of_filter unique fun y _ same => ?_).of_perm
        (unique.perm_filter_of_find? found)
      have uri : y.uri = victim.uri := congrArg Prod.fst (Store.sameVariant_iff.mp same)
      rw [uri]
  | forgetCount gone next sh =>
      cases next with
      | remove uri | clear uri shard =>
          simp only [Resume.next, Option.toList_some, List.mem_singleton, forall_eq]
          exact ⟨rfl, fits⟩
      | _ => simp [Resume.next, Call.Fits]
  | removeStored uri sh free stored =>
      simp only [Option.toList_some, List.mem_singleton, forall_eq]
      exact Gathered.of_filter unique uri
  | clearStored shard uri sh inShard stored =>
      simp only [Option.toList_some, List.mem_singleton, forall_eq]
      exact ⟨inShard, Gathered.of_filter unique uri⟩
  | purgeStored cutoff shard visited uri sh inShard stored fresh =>
      simp only [Option.toList_some, List.mem_singleton, forall_eq, Call.Fits, Resume.Fits]
      refine TakenOut.of_filter unique fun y _ dropped => ?_
      simp only [Bool.and_eq_true, beq_iff_eq] at dropped
      rw [dropped.1, inShard]
  | _ => simp [Call.Fits]

/-- A step changes the map only in a shard no other call holds. -/
theorem agree (step : CallStep sharding others c sh next sh')
    (apart : ∀ o ∈ others, c.Apart sharding o) (fits : c.Fits sharding sh.entries) :
    ∀ o ∈ others, ∀ x, o.guard sharding = some (sharding.shard x.uri) →
      (x ∈ sh'.entries ↔ x ∈ sh.entries) := by
  intro o ho x held
  have elsewhere : ∀ {uri : String} {s : Nat}, sharding.shard uri = s →
      o.guard sharding ≠ some s → x.uri ≠ uri :=
    fun inShard other same => other (by rw [held, same, inShard])
  cases step with
  | store e sh free =>
      have away := elsewhere rfl (free o ho)
      rw [mem_storeEntry]
      constructor
      · rintro (rfl | ⟨stored, -⟩)
        · exact absurd rfl away
        · exact stored
      · exact fun stored => .inr ⟨stored, fun same => away (Entry.uri_eq_of_mapKey_eq same)⟩
  | evict victim y sh free found current =>
      have away := elsewhere rfl (free o ho)
      apply mem_filter_of_keep
      simp [Store.sameVariant, away]
  | removeErase gone uri sh =>
      have away := elsewhere rfl (apart o ho _ rfl)
      apply mem_filter_of_keep
      simpa using away
  | clearErase gone uri shard sh =>
      have away := elsewhere fits.2.1 (apart o ho _ rfl)
      apply mem_filter_of_keep
      simpa using away
  | purgeStored cutoff shard visited uri sh inShard stored fresh =>
      have away := elsewhere inShard (apart o ho _ rfl)
      apply mem_filter_of_keep
      simp [away]
  | _ => exact Iff.rfl

/-- A step moves the count against the number of entries exactly as it moves what the call owes:
what the count leaves out and what it still includes. -/
theorem count_balance (step : CallStep sharding others c sh next sh')
    (unique : UniqueKeys sh.entries) (fits : c.Fits sharding sh.entries) :
    sh'.count + ((next.toList.flatMap Call.uncounted).length : Int) + sh.entries.length +
        c.unmapped.length =
      sh.count + c.uncounted.length + sh'.entries.length +
        (next.toList.flatMap Call.unmapped).length := by
  cases step with
  | store e sh free =>
      have grown := length_storeEntry sh.entries e
      cases found : sh.entries.find? (Store.sameVariant e.uri e.key) <;>
        simp only [found, Option.toList_none, Option.toList_some, List.length_nil,
          List.length_singleton] at grown <;>
        simp [Call.uncounted, Call.unmapped] <;> omega
  | index e previous sh free => cases previous <;> simp [Call.uncounted, Call.unmapped]
  | count e previous sh => cases previous <;> simp [Call.uncounted, Call.unmapped]
  | pick sh now free => cases sh.index.victim now <;> simp [Call.uncounted, Call.unmapped]
  | evict victim x sh free found current =>
      have one := (unique.perm_filter_of_find? found).length_eq
      have split := sh.entries.length_eq_length_filter_add
        (Store.sameVariant victim.uri victim.key)
      simp only [List.length_singleton] at one
      simp [Call.uncounted, Call.unmapped, Resume.taken]
      omega
  | forgetCount gone next sh =>
      cases next <;> simp [Resume.next, Resume.taken, Call.uncounted, Call.unmapped] <;> omega
  | removeErase gone uri sh =>
      have size := Gathered.length_filter fits.2 unique
      simp [Call.uncounted, Call.unmapped]
      omega
  | clearErase gone uri shard sh =>
      have size := Gathered.length_filter fits.2.2 unique
      simp [Call.uncounted, Call.unmapped]
      omega
  | purgeStored cutoff shard visited uri sh inShard stored fresh =>
      have split := sh.entries.length_eq_length_filter_add
        (fun x => x.uri == uri && x.isExpired cutoff)
      simp only [Bool.not_and] at split
      simp [Call.uncounted, Call.unmapped, Resume.taken]
      omega
  | _ => simp [Call.uncounted, Call.unmapped, Resume.taken]

/-- How a step moves the index against the call's own share of the ledger. -/
theorem revision (step : CallStep sharding others c sh next sh') (unique : UniqueKeys sh.entries)
    (fits : c.Fits sharding sh.entries) :
    ∃ dropped added,
      Revision c sh.entries next.toList sh'.entries sh.index sh'.index dropped added := by
  cases step with
  | store e sh free => exact ⟨[], [], .store unique e⟩
  | index e previous sh free => exact ⟨_, _, .replace unique fits.1 fits.2⟩
  | pick sh now free =>
      cases sh.index.victim now <;>
        exact ⟨[], [], .unchanged fun x => by simp [Call.missing, Call.extra]⟩
  | evict victim x sh free found current =>
      exact ⟨[], [], .take_out ⟨rfl, rfl⟩ ⟨rfl, rfl⟩ (unique.perm_filter_of_find? found)⟩
  | forgetIndex gone next sh free =>
      cases next with
      | evict uri | purge cutoff shard visited => exact ⟨_, _, .forget_taken rfl fits.away⟩
      | remove uri => exact ⟨_, _, .forget_stored rfl fun g hg => ((fits.mem g).mp hg).1⟩
      | clear uri shard => exact ⟨_, _, .forget_stored rfl fun g hg => ((fits.2.mem g).mp hg).1⟩
  | forgetCount gone next sh =>
      cases next <;>
        exact ⟨[], [], .unchanged fun x => by simp [Resume.next, Resume.taken, Call.missing,
          Call.extra]⟩
  | removeErase gone uri sh =>
      refine ⟨[], [], .unchanged fun x => ?_⟩
      simp only [Option.toList_none, ledger_nil, mem_ledger_singleton, Call.missing, Call.extra,
        List.not_mem_nil, or_false]
      exact fits.2.mem_filter x
  | clearErase gone uri shard sh =>
      refine ⟨[], [], .unchanged fun x => ?_⟩
      simp only [Option.toList_some, mem_ledger_singleton, Call.missing, Call.extra,
        List.not_mem_nil, not_false_eq_true, and_true, or_false]
      exact fits.2.2.mem_filter x
  | purgeStored cutoff shard visited uri sh inShard stored fresh =>
      exact ⟨[], [], .take_out ⟨rfl, rfl⟩ ⟨rfl, rfl⟩ (List.Perm.refl _)⟩
  | _ => exact ⟨[], [], .unchanged fun x => by simp [Call.missing, Call.extra, Resume.taken]⟩

/-- Only an add raises the count, and it then goes on to check the bound. -/
theorem count_le_or_evicts (step : CallStep sharding others c sh next sh') :
    sh'.count ≤ sh.count ∨ ∃ n ∈ next.toList, n.evicts = true := by
  cases step with
  | count e previous sh => exact .inr ⟨.evictCheck, List.mem_singleton_self _, rfl⟩
  | forgetCount gone next sh =>
      left
      show sh.count - gone.length ≤ sh.count
      omega
  | _ => exact .inl (Int.le_refl _)

/-- An add stops checking the bound only with the count within it: the loaded count was within
it, or there was no victim left to pick, which leaves nothing counted while no call holds the
index mutex. -/
theorem checked_of_evicts (step : CallStep sharding others c sh next sh')
    (evicting : c.evicts = true) (bounded : 0 < sh.maxEntries)
    (drained : sh.index.bySequence = [] → (∀ o ∈ c :: others, o.locksIndex = false) →
      sh.count ≤ 0) :
    sh'.count ≤ sh'.maxEntries ∨ ∃ n ∈ next.toList, n.evicts = true := by
  cases step with
  | unbounded sh zero => omega
  | within sh bounded fits => exact .inl fits
  | pick sh now free =>
      cases found : sh.index.victim now with
      | none =>
          left
          have unlocked : ∀ o ∈ Call.evictPick :: others, o.locksIndex = false :=
            List.forall_mem_cons.mpr ⟨rfl, free⟩
          have empty := drained (EvictionIndex.bySequence_eq_nil_of_victim found) unlocked
          show sh.count ≤ sh.maxEntries
          omega
      | some victim => exact .inr ⟨.evictRemove victim, List.mem_singleton_self _, rfl⟩
  | forgetIndex gone next sh free | forgetCount gone next sh =>
      cases next <;> simp [Call.evicts, Resume.next] at evicting ⊢
  | store | index | count | exceeded | evict | stale =>
      exact .inr ⟨_, List.mem_singleton_self _, rfl⟩
  | _ => simp [Call.evicts] at evicting

end CallStep

namespace Accounted

variable {sharding : Sharding}

section Step

variable {sh sh' : Shared} {c : Call} {others : List Call} {next : Option Call}

/-- What the stepping call owes, before the step or after it, no other call owes. -/
theorem not_owed_of_step (accounted : Accounted sharding ⟨sh, c :: others⟩)
    (step : CallStep sharding others c sh next sh') :
    ∀ x, (x ∈ c.owed ∨ ∃ n ∈ next.toList, x ∈ n.owed) → ∀ o ∈ others, x ∉ o.owed := by
  have fitsC : c.Fits sharding sh.entries := accounted.fits c List.mem_cons_self
  have apartC := (List.pairwise_cons.mp accounted.apart).1
  rintro x (mine | ⟨n, hn, mine⟩) o ho
  · exact accounted.not_owed List.mem_cons_self (List.mem_cons_of_mem c ho) (apartC o ho) mine
  · have held := (step.fits_next accounted.unique fitsC n hn).guard_eq mine
    exact (accounted.fits o (List.mem_cons_of_mem c ho)).not_owed
      (step.guard_free apartC n hn _ held o ho)

/-- After a step the index mirrors the ledger of the calls then in flight. -/
theorem mirrors_of_step (accounted : Accounted sharding ⟨sh, c :: others⟩)
    (step : CallStep sharding others c sh next sh') :
    sh'.index.Mirrors (ledger sh'.entries (next.toList ++ others)) := by
  have separate := accounted.not_owed_of_step step
  obtain ⟨dropped, added, revision⟩ :=
    step.revision accounted.unique (accounted.fits c List.mem_cons_self)
  have elsewhere : ∀ x, x ∈ dropped ∨ x ∈ added → ∀ o ∈ others, x ∉ o.owed :=
    fun x moved => separate x (revision.owed x moved)
  rw [revision.index_eq]
  apply accounted.mirrors.revise accounted.unique_ledger
  · intro g hg
    exact mem_ledger_cons (revision.held g hg) fun o ho owing =>
      elsewhere g (.inl hg) o ho (Call.mem_owed.mpr (.inr (.inr (.inl owing))))
  · refine mem_ledger_step revision.own fun x touched o ho => ?_
    have unowed : x ∉ o.owed := by
      rcases touched with moved | moved | extra | ⟨n, hn, extra⟩
      · exact elsewhere x (.inl moved) o ho
      · exact elsewhere x (.inr moved) o ho
      · exact separate x (.inl (Call.mem_owed.mpr (.inr (.inr (.inr extra))))) o ho
      · exact separate x (.inr ⟨n, hn, Call.mem_owed.mpr (.inr (.inr (.inr extra)))⟩) o ho
    exact ⟨fun owing => unowed (Call.mem_owed.mpr (.inr (.inr (.inl owing)))),
      fun owing => unowed (Call.mem_owed.mpr (.inr (.inr (.inr owing))))⟩

/-- After a step a count over the bound still has an add in flight that has yet to check it. -/
theorem checked_of_step (accounted : Accounted sharding ⟨sh, c :: others⟩)
    (step : CallStep sharding others c sh next sh') (bounded : 0 < sh.maxEntries) :
    sh'.count ≤ sh.maxEntries ∨ ∃ d ∈ next.toList ++ others, d.evicts = true := by
  have drained := fun empty unlocked => accounted.count_nonpos_of_drained empty unlocked
  rcases accounted.checked bounded with within | ⟨d, hd, evicting⟩
  · rcases step.count_le_or_evicts with lower | ⟨n, hn, evicts⟩
    · exact .inl (Int.le_trans lower within)
    · exact .inr ⟨n, List.mem_append_left _ hn, evicts⟩
  · rcases List.mem_cons.mp hd with rfl | other
    · rcases step.checked_of_evicts evicting bounded drained with fine | ⟨n, hn, evicts⟩
      · rw [step.maxEntries_eq] at fine
        exact .inl fine
      · exact .inr ⟨n, List.mem_append_left _ hn, evicts⟩
    · exact .inr ⟨d, List.mem_append_right _ other, evicting⟩

/-- One step of one call keeps the accounts, with the call listed first. -/
theorem run_cons (accounted : Accounted sharding ⟨sh, c :: others⟩)
    (step : CallStep sharding others c sh next sh') :
    Accounted sharding ⟨sh', next.toList ++ others⟩ := by
  have fitsC : c.Fits sharding sh.entries := accounted.fits c List.mem_cons_self
  obtain ⟨apartC, apartO⟩ := List.pairwise_cons.mp accounted.apart
  have free := step.guard_free apartC
  have sameBound : sh'.maxEntries = sh.maxEntries := step.maxEntries_eq
  refine ⟨step.unique accounted.unique, ?apart, ?exclusive, ?fits, ?count,
    accounted.mirrors_of_step step, ?checked⟩
  case apart =>
    refine List.pairwise_append.mpr ⟨?_, apartO, fun n hn o ho s held => free n hn s held o ho⟩
    cases next <;> simp
  case exclusive =>
    intro bounded
    rw [sameBound] at bounded
    obtain ⟨_, exclusiveO⟩ := List.pairwise_cons.mp (accounted.exclusive bounded)
    refine List.pairwise_append.mpr ⟨?_, exclusiveO, fun n hn o ho => ?_⟩
    · cases next <;> simp
    · cases locked : n.locksIndex
      · exact .inl locked
      · exact .inr (step.locks_free n hn locked bounded o ho)
  case fits =>
    intro d hd
    rcases List.mem_append.mp hd with mine | other
    · exact step.fits_next accounted.unique fitsC d mine
    · exact (accounted.fits d (List.mem_cons_of_mem c other)).frame fun x held =>
        step.agree apartC fitsC d other x held
  case count =>
    have balance := accounted.count_eq
    have own := step.count_balance accounted.unique fitsC
    simp only [List.flatMap_cons, List.flatMap_append, List.length_append] at balance ⊢
    omega
  case checked =>
    intro bounded
    rw [sameBound] at bounded ⊢
    exact accounted.checked_of_step step bounded

end Step

end Accounted

end Cache
end ResponseCache
