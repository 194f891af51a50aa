import ResponseCache.Proofs.Cache.RepeatedRequest
import ResponseCache.Proofs.Cache.SelectionOrder
/-!
# Sequence numbers over a run of the cache

The cache numbers the entries it stores from 0, one number per add, and the numbers wrap only
after as many adds as 64-bit words count. Removals, clears, purges and evictions only take
entries out. So in a run with fewer adds than that, the stored entries carry distinct numbers,
all below the next one (`Manager.Reachable.numberedBy`).

A rank ends with the sequence number, so the lookup of such a cache chooses the same variant
whatever order the store lists the variants of a resource in (`lookup_ignores_store_order`).
-/

namespace ResponseCache
namespace Cache

namespace Store

theorem mem_of_mem_removeSlot {s : Store} {slot : Slot} {x : Entry}
    (member : x ∈ (s.removeSlot slot).entries) : x ∈ s.entries := by
  unfold removeSlot at member
  split at member
  · split at member
    · exact List.mem_of_mem_filter member
    · exact member
  · exact member

theorem mem_of_mem_evict {now : Nat} : ∀ {fuel : Nat} {s : Store} {x : Entry},
    x ∈ (evict now fuel s).entries → x ∈ s.entries
  | 0, _, _, member => member
  | _ + 1, _, _, member => by
      unfold evict at member
      split at member
      · split at member
        · exact mem_of_mem_removeSlot (mem_of_mem_evict member)
        · exact member
      · exact member

/-- After an add the store holds the added entry and some of the entries it held before. -/
theorem mem_add {s : Store} {now : Nat} {e x : Entry} (member : x ∈ (s.add now e).entries) :
    x = e ∨ x ∈ s.entries := by
  have inserted : x ∈ (s.insertEntry e).entries := by
    rw [add_eq] at member
    split at member
    · exact member
    · exact mem_of_mem_evict member
  rcases mem_insertEntry.mp inserted with same | ⟨stored, _⟩
  · exact .inl same
  · exact .inr stored

end Store

namespace Manager

section Memory

variable {m : Manager} {s : Store} (memory : m.backend = .memory s)
include memory

theorem remove_of_memory (uri : String) :
    m.remove uri = ({ m with backend := .memory (s.remove uri).1 }, .ok (s.remove uri).2) := by
  simp [Manager.remove, memory]

theorem clear_of_memory : m.clear = ({ m with backend := .memory s.clear }, .ok ()) := by
  simp [Manager.clear, memory]

theorem purgeExpired_of_memory (grace : Nat) :
    m.purgeExpired grace = ({ m with backend := .memory (s.purgeExpired m.now grace).1 },
      .ok (s.purgeExpired m.now grace).2) := by
  simp [Manager.purgeExpired, memory]

end Memory

/-- One call on the cache other than an add: a removal, a clear, a purge at the cache's clock or,
straight on the in-memory store, at any time, and a move of the clock. -/
inductive Call : Manager → Manager → Prop
  | remove (m : Manager) (uri : String) : Call m (m.remove uri).1
  | clear (m : Manager) : Call m m.clear.1
  | purge (m : Manager) (grace : Nat) : Call m (m.purgeExpired grace).1
  | purgeStore (m : Manager) {s : Store} (now grace : Nat) : m.backend = .memory s →
      Call m { m with backend := .memory (s.purgeExpired now grace).1 }
  | setClock (m : Manager) (now : Nat) : Call m { m with now }

/-- The caches that a run of calls, `adds` of them adds, reaches from `start`. -/
inductive Run (start : Manager) : Nat → Manager → Prop
  | refl : Run start 0 start
  | add {adds : Nat} {m : Manager} (n : NewEntry) :
      Run start adds m → Run start (adds + 1) (m.add n).1
  | call {adds : Nat} {m m' : Manager} : Run start adds m → Call m m' → Run start adds m'

/-- The caches that a run with `adds` adds reaches from a cache over an empty in-memory store,
bounded or not and with a clock of its own or not, whose numbering starts at 0. -/
def Reachable (adds : Nat) (m : Manager) : Prop :=
  ∃ (maxEntries : Nat) (ownClock : Option Nat) (now : Nat),
    Run ⟨.memory { maxEntries, ownClock }, now, 0⟩ adds m

/-- The cache is over the reachable in-memory store `s`, its next number counts the adds, and
the stored entries carry distinct numbers below it. -/
structure NumberedBy (adds : Nat) (m : Manager) (s : Store) : Prop where
  memory : m.backend = .memory s
  reachable : s.Reachable
  next : m.nextSequence = adds
  below : ∀ e ∈ s.entries, e.sequence < adds
  distinct : ∀ a ∈ s.entries, ∀ b ∈ s.entries, a.sequence = b.sequence → a = b

namespace NumberedBy

variable {adds : Nat} {m : Manager} {s : Store}

/-- An add that does not wrap the numbering numbers its entry after every stored one. -/
theorem add (numbered : m.NumberedBy adds s) (n : NewEntry) (room : adds + 1 < Text.wordBound) :
    (m.add n).1.NumberedBy (adds + 1) (s.add m.now (n.entryAt m.now adds)) := by
  rw [Manager.add_of_memory numbered.memory, numbered.next]
  have numberOfNew : (n.entryAt m.now adds).sequence = adds := rfl
  refine ⟨rfl, numbered.reachable.step (.add s m.now _), ?_, ?_, ?_⟩
  · show (adds + 1) % Text.wordBound = adds + 1
    exact Nat.mod_eq_of_lt room
  · intro x member
    rcases Store.mem_add member with rfl | stored
    · omega
    · have older := numbered.below x stored
      omega
  · intro a aMember b bMember same
    rcases Store.mem_add aMember with rfl | aStored <;>
      rcases Store.mem_add bMember with rfl | bStored
    · rfl
    · have older := numbered.below b bStored
      omega
    · have older := numbered.below a aStored
      omega
    · exact numbered.distinct a aStored b bStored same

/-- A store step that keeps some of the entries keeps the numbering. -/
theorem shrink (numbered : m.NumberedBy adds s) {m' : Manager} {s' : Store}
    (step : Store.Step s s') (fewer : ∀ x ∈ s'.entries, x ∈ s.entries)
    (memory : m'.backend = .memory s') (next : m'.nextSequence = m.nextSequence) :
    m'.NumberedBy adds s' where
  memory := memory
  reachable := numbered.reachable.step step
  next := next.trans numbered.next
  below x member := numbered.below x (fewer x member)
  distinct a aMember b bMember := numbered.distinct a (fewer a aMember) b (fewer b bMember)

theorem call (numbered : m.NumberedBy adds s) {m' : Manager} (call : Call m m') :
    ∃ s', m'.NumberedBy adds s' := by
  cases call with
  | remove uri =>
      rw [remove_of_memory numbered.memory]
      exact ⟨_, numbered.shrink (.remove s uri) (fun _ => List.mem_of_mem_filter) rfl rfl⟩
  | clear =>
      rw [clear_of_memory numbered.memory]
      exact ⟨_, numbered.shrink (.clear s) (fun _ member => by simp [Store.clear] at member) rfl rfl⟩
  | purge grace =>
      rw [purgeExpired_of_memory numbered.memory]
      exact ⟨_, numbered.shrink (.purge s m.now grace) (fun _ => List.mem_of_mem_filter) rfl rfl⟩
  | purgeStore now grace memory =>
      obtain rfl : s = _ := Backend.memory.inj (numbered.memory.symm.trans memory)
      exact ⟨_, numbered.shrink (.purge s now grace) (fun _ => List.mem_of_mem_filter) rfl rfl⟩
  | setClock now =>
      exact ⟨s, numbered.memory, numbered.reachable, numbered.next, numbered.below,
        numbered.distinct⟩

/-- The numbers of the stored entries are pairwise distinct. -/
theorem nodup_sequences (numbered : m.NumberedBy adds s) : (s.entries.map Entry.sequence).Nodup :=
  numbered.reachable.coherent.unique.nodup.map_on numbered.distinct

end NumberedBy

/-- A run with fewer adds than 64-bit words count keeps the numbering. -/
theorem Reachable.numberedBy {adds : Nat} {m : Manager} (reachable : m.Reachable adds)
    (room : adds < Text.wordBound) : ∃ s, m.NumberedBy adds s := by
  obtain ⟨maxEntries, ownClock, now, run⟩ := reachable
  induction run with
  | refl =>
      refine ⟨{ maxEntries, ownClock }, rfl, ⟨maxEntries, ownClock, .refl⟩, rfl, ?_, ?_⟩
      · intro _ member
        simp at member
      · intro _ member
        simp at member
  | add n _ ih =>
      obtain ⟨s, numbered⟩ := ih (by omega)
      exact ⟨_, numbered.add n room⟩
  | call _ call ih =>
      obtain ⟨s, numbered⟩ := ih room
      exact numbered.call call

end Manager

/-- Which variant a lookup gets does not depend on the order the store lists the variants in:
among candidates with distinct sequence numbers every order leads to the same choice, and in a
run with fewer adds than 64-bit words count, the stored entries carry distinct numbers, so the
lookup returns the choice made from any order of the resource's variants. -/
theorem lookup_ignores_store_order :
    (∀ (candidates others : List Entry) (accept : Media.Accept) (hs : Http.Headers),
      (candidates.map Entry.sequence).Nodup → others.Perm candidates →
        selectVariant others accept hs = selectVariant candidates accept hs) ∧
    ∀ (adds : Nat) (m : Manager), m.Reachable adds → adds < Text.wordBound →
      ∃ s, m.backend = .memory s ∧ (s.entries.map Entry.sequence).Nodup ∧
        ∀ (uri : String) (accept : Media.Accept) (hs : Http.Headers) (others : List Entry),
          others.Perm (s.get uri) → m.get uri accept hs = .ok (selectVariant others accept hs) := by
  refine ⟨fun _ _ accept hs distinct perm => selectVariant_perm accept hs distinct perm, ?_⟩
  intro adds m reachable room
  obtain ⟨s, numbered⟩ := reachable.numberedBy room
  refine ⟨s, numbered.memory, numbered.nodup_sequences, fun uri accept hs others perm => ?_⟩
  have distinct : ((s.get uri).map Entry.sequence).Nodup :=
    numbered.nodup_sequences.sublist (List.filter_sublist.map Entry.sequence)
  rw [selectVariant_perm accept hs distinct perm]
  simp [Manager.get, numbered.memory]

/-- Two variants listed in either order lead to the same choice, and so does the lookup of a
cache after one add. -/
theorem lookup_ignores_store_order_after_add :
    let older : Entry := ⟨"/", Media.MediaType.octetStream, {}, [], "a", 60, 60, {}, 0⟩
    let newer : Entry := { older with etag := "b", sequence := 1 }
    let stored : NewEntry :=
      ⟨"/", Media.MediaType.octetStream, { maxAge := some 60 }, {}, [], "v1", {}⟩
    let m := (({ backend := .memory {} } : Manager).add stored).1
    (([older, newer].map Entry.sequence).Nodup ∧ [newer, older].Perm [older, newer] ∧
      selectVariant [newer, older] Media.Accept.any {} =
        selectVariant [older, newer] Media.Accept.any {}) ∧
    (m.Reachable 1 ∧ 1 < Text.wordBound ∧
      ∃ s, m.backend = .memory s ∧ (s.entries.map Entry.sequence).Nodup ∧
        ∀ (uri : String) (accept : Media.Accept) (hs : Http.Headers) (others : List Entry),
          others.Perm (s.get uri) → m.get uri accept hs = .ok (selectVariant others accept hs)) := by
  intro older newer stored m
  have distinct : ([older, newer].map Entry.sequence).Nodup := by decide
  have perm : [newer, older].Perm [older, newer] := .swap older newer []
  have reachable : m.Reachable 1 := ⟨0, none, 0, .add stored .refl⟩
  have room : 1 < Text.wordBound := by decide
  exact ⟨⟨distinct, perm, lookup_ignores_store_order.1 _ _ _ _ distinct perm⟩,
    reachable, room, lookup_ignores_store_order.2 1 m reachable room⟩

end Cache
end ResponseCache
