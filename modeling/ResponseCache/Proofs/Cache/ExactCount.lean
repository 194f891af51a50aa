import ResponseCache.Proofs.Cache.ConcurrentSteps
/-!
# The count is exact whenever the store is idle

Every system a run reaches keeps the accounts of `Accounted`: the empty store does, a call that
starts owes nothing, and each atomic step of a call in flight keeps them (`Accounted.run_cons`).
So however the steps of any number of adds, removes, clears and purges interleave, the count
never goes below zero; and whenever no call is in flight, nothing is owed, so the count is the
number of stored entries, the index holds exactly one slot per entry, and a bounded store holds at
most its bound.
-/

namespace ResponseCache
namespace Cache

/-- What a store with no call in flight satisfies: the count is the number of entries, the index
holds exactly one slot per entry in each of its orders, and a bounded store is within its bound. -/
structure Shared.Exact (sh : Shared) : Prop where
  /-- The count is the number of entries. -/
  count_eq : sh.count = sh.entries.length
  /-- One slot per entry, by sequence. -/
  slots : sh.index.bySequence.Perm (sh.entries.map Slot.ofEntry)
  /-- One timed slot per entry, by expiry. -/
  timedSlots : sh.index.byExpiry.Perm (sh.entries.map fun e => (e.expiresAt, Slot.ofEntry e))
  /-- A bounded store holds at most its bound. -/
  within : 0 < sh.maxEntries → sh.entries.length ≤ sh.maxEntries

/-- A list ascending strictly by a comparison lists nothing twice. -/
theorem nodup_of_ascending {α : Type} {cmp : α → α → Ordering} [Std.ReflCmp cmp]
    {l : List α} (ascending : l.Pairwise (cmp · · = .lt)) : l.Nodup :=
  ascending.imp fun {a b} less same => by
    have self : cmp b b = .eq := Std.ReflCmp.compare_self
    rw [same, self] at less
    cases less

/-- Entries at distinct places have distinct slots. -/
theorem UniqueKeys.nodup_slots {entries : List Entry} (unique : UniqueKeys entries) :
    (entries.map Slot.ofEntry).Nodup := by
  apply List.Nodup.of_map fun slot : Slot => (slot.uri, slot.key)
  rw [List.map_map]
  exact unique

theorem Invocation.fresh (sharding : Sharding) (invocation : Invocation)
    (entries : List Entry) :
    invocation.call.guard sharding = none ∧ invocation.call.locksIndex = false ∧
      invocation.call.uncounted = [] ∧ invocation.call.unmapped = [] ∧
      invocation.call.missing = [] ∧ invocation.call.extra = [] ∧
      invocation.call.Fits sharding entries := by
  cases invocation <;>
    simp [Invocation.call, Call.guard, Call.locksIndex, Call.uncounted, Call.unmapped, Call.missing,
      Call.extra, Call.Fits]

namespace Accounted

variable {sharding : Sharding}

theorem empty (maxEntries : Nat) : Accounted sharding ⟨{ maxEntries }, []⟩ where
  unique := List.nodup_nil
  apart := List.Pairwise.nil
  exclusive _ := List.Pairwise.nil
  fits := by simp
  count_eq := by simp
  mirrors := by constructor <;> simp
  checked _ := .inl (by simp)

/-- A call that starts holds no guard and no lock, and owes nothing. -/
theorem begin {sh : Shared} {calls : List Call} (accounted : Accounted sharding ⟨sh, calls⟩)
    (invocation : Invocation) : Accounted sharding ⟨sh, invocation.call :: calls⟩ := by
  obtain ⟨guard, unlocked, uncounted, unmapped, missing, extra, fits⟩ :=
    Invocation.fresh sharding invocation sh.entries
  refine ⟨accounted.unique, ?_, ?_, ?_, ?_, ?_, ?_⟩
  · refine List.pairwise_cons.mpr ⟨fun o _ s held => ?_, accounted.apart⟩
    rw [guard] at held
    cases held
  · exact fun bounded =>
      List.pairwise_cons.mpr ⟨fun o _ => .inl unlocked, accounted.exclusive bounded⟩
  · exact List.forall_mem_cons.mpr ⟨fits, accounted.fits⟩
  · simpa [uncounted, unmapped] using accounted.count_eq
  · exact accounted.mirrors.congr fun x => by simp [mem_ledger, missing, extra]
  · intro bounded
    rcases accounted.checked bounded with within | ⟨d, hd, evicting⟩
    · exact .inl within
    · exact .inr ⟨d, List.mem_cons_of_mem _ hd, evicting⟩

/-- Every step of a run keeps the accounts. -/
theorem step {sys sys' : System} (accounted : Accounted sharding sys)
    (step : System.Step sharding sys sys') : Accounted sharding sys' := by
  cases step with
  | begin shared calls invocation =>
      exact (accounted.begin invocation).perm (List.perm_append_singleton _ _).symm
  | run shared shared' before after c next atomic =>
      have moved := (accounted.perm List.perm_middle).run_cons atomic
      refine moved.perm ?_
      rw [← List.append_assoc]
      exact List.perm_append_comm.append_right after

/-- With no call in flight, nothing is owed: the store is exact. -/
theorem exact {sh : Shared} (accounted : Accounted sharding ⟨sh, []⟩) : sh.Exact := by
  have mirrors : sh.index.Mirrors sh.entries := by
    simpa only [ledger_nil] using accounted.mirrors
  have count_eq : sh.count = sh.entries.length := by
    simpa using accounted.count_eq
  have slots := accounted.unique.nodup_slots
  refine ⟨count_eq, ?_, ?_, fun bounded => ?_⟩
  · apply (List.perm_ext_iff_of_nodup (nodup_of_ascending mirrors.sorted_bySequence) slots).mpr
    intro slot
    rw [mirrors.mem_bySequence, List.mem_map]
  · have timed : (sh.entries.map fun e => (e.expiresAt, Slot.ofEntry e)).Nodup := by
      apply List.Nodup.of_map Prod.snd
      rw [List.map_map]
      exact slots
    apply (List.perm_ext_iff_of_nodup (nodup_of_ascending mirrors.sorted_byExpiry) timed).mpr
    intro p
    rw [mirrors.mem_byExpiry, List.mem_map]
  · rcases accounted.checked bounded with within | ⟨_, none, _⟩
    · have loaded : sh.count ≤ sh.maxEntries := within
      omega
    · cases none

end Accounted

theorem System.Step.maxEntries_eq {sharding : Sharding} {sys sys' : System}
    (step : System.Step sharding sys sys') : sys'.shared.maxEntries = sys.shared.maxEntries := by
  cases step with
  | begin => rfl
  | run shared shared' before after c next atomic => exact atomic.maxEntries_eq

/-- Every system a run reaches keeps the accounts, with the bound it started with. -/
theorem System.Reachable.accounted {sharding : Sharding} {maxEntries : Nat} {sys : System}
    (reach : System.Reachable sharding maxEntries sys) :
    Accounted sharding sys ∧ sys.shared.maxEntries = maxEntries := by
  induction reach with
  | empty => exact ⟨Accounted.empty maxEntries, rfl⟩
  | step _ step ih => exact ⟨ih.1.step step, step.maxEntries_eq.trans ih.2⟩

/-- However the atomic steps of concurrent adds, removes, clears and purges interleave, the count
never goes below zero, and whenever no call is in flight the count is the number of stored
entries, the index holds exactly one slot per entry, and a bounded store holds at most its
bound. -/
theorem count_exact_under_interleaving {sharding : Sharding} {maxEntries : Nat} {sys : System}
    (reach : System.Reachable sharding maxEntries sys) :
    sys.shared.maxEntries = maxEntries ∧ 0 ≤ sys.shared.count ∧
      (sys.calls = [] → sys.shared.Exact) := by
  obtain ⟨accounted, bound⟩ := reach.accounted
  refine ⟨bound, accounted.count_nonneg, fun idle => ?_⟩
  obtain ⟨sh, calls⟩ := sys
  change calls = [] at idle
  subst idle
  exact accounted.exact

/-- One add run to its end in a store bounded by one leaves it settled, holding the entry. -/
theorem exact_after_one_add :
    let e : Entry := ⟨"/", Media.MediaType.octetStream, {}, [], "a", 60, 60, {}, 0⟩
    let single : Sharding := ⟨1, fun _ => 0, fun _ => Nat.one_pos⟩
    let sh : Shared :=
      { entries := [e], count := 1, maxEntries := 1, index := ({} : EvictionIndex).insert e }
    System.Reachable single 1 ⟨sh, []⟩ ∧ sh.Exact := by
  intro e single sh
  have reach : System.Reachable single 1 ⟨sh, []⟩ :=
    .step (.step (.step (.step (.step .empty (.begin _ [] (.add e)))
      (.run _ _ [] [] _ _ (.store e _ (by simp [GuardFree]))))
      (.run _ _ [] [] _ _ (.index e none _ (by simp [IndexFree]))))
      (.run _ _ [] [] _ _ (.count e none _)))
      (.run _ _ [] [] _ _ (.within _ (by decide) (by decide)))
  exact ⟨reach, (count_exact_under_interleaving reach).2.2 rfl⟩

end Cache
end ResponseCache
