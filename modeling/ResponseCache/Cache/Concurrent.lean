import ResponseCache.Cache.Store
/-!
# The in-memory store under concurrent calls

The store is shared by the calls running at once. Its map is split into shards, each behind a
guard that a call holds while it changes the resources of that shard; the eviction index is
behind one mutex, which a bounded store has and an unbounded one lacks; the count is a word
changed by atomic additions and subtractions, read by an atomic load.

A call is a sequence of atomic steps: each change of the map, made under the guard of its shard;
each section under the index mutex; each change of the count; and, in the eviction loop of an
add, the load of the count (under no lock) and the pick of a victim (under the index mutex).
Steps of calls that hold one guard never interleave; steps under different guards may. Taking a
guard is part of the first step made under it, and the changes a call makes to its own shard one
after the other are one step, since no other call sees that shard meanwhile. Accounting for
entries taken out (`forget`) takes the index mutex, takes their slots out, lowers the count and
only then releases the mutex: two steps, between which the count may be loaded by another call.

The eviction loop picks its victim without a guard, so by the time it takes the guard another
call may have replaced or removed the victim; the removal checks the sequence number first.

A run starts calls at any time and takes one step of any call in flight at a time. The count is
an integer here, so that a subtraction below zero would show. An unbounded store keeps an index
too, as the sequential store does, but nothing reads it and no call waits for its mutex.
-/

namespace ResponseCache
namespace Cache

/-- How the map is split into shards. -/
structure Sharding where
  /-- How many shards there are. -/
  shards : Nat
  /-- The shard a resource key falls in. -/
  shard : String → Nat
  /-- Every resource key falls in one of the shards. -/
  shard_lt : ∀ uri, shard uri < shards

/-- The entries with `e` in place of the variant at its place, or added after them. -/
def storeEntry (entries : List Entry) (e : Entry) : List Entry :=
  match entries.find? (Store.sameVariant e.uri e.key) with
  | some _ => entries.map fun x => if Store.sameVariant e.uri e.key x then e else x
  | none => entries ++ [e]

/-- The index with `e`'s slot in place of `previous`'s. -/
def EvictionIndex.replace (ix : EvictionIndex) (e : Entry) : Option Entry → EvictionIndex
  | some p => (ix.erase p).insert e
  | none => ix.insert e

/-- What the calls share. -/
structure Shared where
  /-- The stored entries, at most one per resource key and variant key. -/
  entries : List Entry := []
  /-- The count of entries. -/
  count : Int := 0
  /-- The bound on the number of entries; 0 for none. -/
  maxEntries : Nat := 0
  /-- The eviction index. -/
  index : EvictionIndex := {}

/-- Where a call goes once it has accounted for entries taken out. -/
inductive Resume where
  /-- Back to the eviction loop of an add, with the guard of the victim's resource released. -/
  | evict (uri : String)
  /-- Take the resource out of the map and return: the end of a remove. -/
  | remove (uri : String)
  /-- Take the resource out of the map and go on with the shard: inside a clear. -/
  | clear (uri : String) (shard : Nat)
  /-- Go on with the shard, past the resources visited: inside a purge. -/
  | purge (cutoff shard : Nat) (visited : List String)
deriving DecidableEq, Repr

/-- A call in flight, at the step it takes next. -/
inductive Call where
  /-- An add, about to store its entry. -/
  | add (e : Entry)
  /-- An add that stored `e` in place of `previous`, about to update the index. -/
  | addIndex (e : Entry) (previous : Option Entry)
  /-- An add that updated the index, about to raise the count if it replaced nothing. -/
  | addCount (e : Entry) (previous : Option Entry)
  /-- The eviction loop of an add, about to load the count. -/
  | evictCheck
  /-- The eviction loop, the count over the bound, about to pick a victim. -/
  | evictPick
  /-- The eviction loop, about to remove the victim at `victim` if it is still stored there. -/
  | evictRemove (victim : Slot)
  /-- About to take the slots of `gone` out of the index. -/
  | forgetIndex (gone : List Entry) (next : Resume)
  /-- Holding the index mutex, about to lower the count by the number of `gone`. -/
  | forgetCount (gone : List Entry) (next : Resume)
  /-- A remove or clear that accounted for `gone`, about to take their resource out of the map. -/
  | erase (gone : List Entry) (next : Resume)
  /-- A remove, about to look at its resource. -/
  | remove (uri : String)
  /-- A clear, about to take the guard of `shard`. -/
  | clear (shard : Nat)
  /-- A clear holding the guard of `shard`, about to forget its next resource. -/
  | clearing (shard : Nat)
  /-- A purge, about to take the guard of `shard`. -/
  | purge (cutoff shard : Nat)
  /-- A purge holding the guard of `shard`, about to purge a resource it has not visited. -/
  | purging (cutoff shard : Nat) (visited : List String)
deriving DecidableEq, Repr

namespace Resume

/-- The shard whose guard is held while accounting. -/
def guard (sharding : Sharding) : Resume → Nat
  | evict uri | remove uri => sharding.shard uri
  | clear _ shard | purge _ shard _ => shard

/-- Whether the entries are already out of the map: a removed victim, or purged entries. -/
def taken : Resume → Bool
  | evict _ | purge .. => true
  | remove _ | clear .. => false

/-- Where the call goes once the count is lowered. -/
def next (gone : List Entry) : Resume → Option Call
  | evict _ => some .evictCheck
  | remove uri => some (.erase gone (.remove uri))
  | clear uri shard => some (.erase gone (.clear uri shard))
  | purge cutoff shard visited => some (.purging cutoff shard visited)

end Resume

namespace Call

/-- The shard whose guard a call holds. -/
def guard (sharding : Sharding) : Call → Option Nat
  | addIndex e _ | addCount e _ => some (sharding.shard e.uri)
  | forgetIndex _ next | forgetCount _ next | erase _ next => some (next.guard sharding)
  | clearing shard | purging _ shard _ => some shard
  | add _ | evictCheck | evictPick | evictRemove _ | remove _ | clear _ | purge .. => none

/-- Whether a call holds the index mutex: between taking slots out and lowering the count. -/
def locksIndex : Call → Bool
  | forgetCount .. => true
  | _ => false

/-- Whether a call is an add, which checks the bound before it returns. -/
def evicts : Call → Bool
  | add _ | addIndex .. | addCount .. | evictCheck | evictPick | evictRemove _ => true
  | forgetIndex _ next | forgetCount _ next => (next matches .evict _)
  | erase .. | remove _ | clear _ | clearing _ | purge .. | purging .. => false

end Call

/-- A call of the store as it starts. -/
inductive Invocation where
  /-- Store an entry. -/
  | add (e : Entry)
  /-- Drop every variant of a resource. -/
  | remove (uri : String)
  /-- Drop everything. -/
  | clear
  /-- Drop what expired more than `grace` seconds before `now`. -/
  | purgeExpired (now grace : Nat)
deriving DecidableEq, Repr

/-- The call an invocation starts. -/
def Invocation.call : Invocation → Call
  | add e => .add e
  | remove uri => .remove uri
  | clear => .clear 0
  | purgeExpired now grace => .purge (now - grace) 0

section Steps

variable (sharding : Sharding)

/-- No call of `others` holds the guard of `shard`. -/
def GuardFree (others : List Call) (shard : Nat) : Prop :=
  ∀ o ∈ others, o.guard sharding ≠ some shard

/-- A call may take the index mutex: no call of `others` holds it, in a bounded store. -/
def IndexFree (maxEntries : Nat) (others : List Call) : Prop :=
  0 < maxEntries → ∀ o ∈ others, o.locksIndex = false

/-- One atomic step of a call, while the calls `others` are in flight too: the call moves to its
next step, or returns (`none`), and the shared state changes. -/
inductive CallStep (others : List Call) : Call → Shared → Option Call → Shared → Prop
  /-- An add takes the guard of its resource and stores the entry, in place of the variant at its
  place if there is one. -/
  | store (e : Entry) (sh : Shared) (free : GuardFree sharding others (sharding.shard e.uri)) :
      CallStep others (.add e) sh
        (some (.addIndex e (sh.entries.find? (Store.sameVariant e.uri e.key))))
        { sh with entries := storeEntry sh.entries e }
  /-- Under the index mutex, the add puts the slot of its entry in place of the replaced one's. -/
  | index (e : Entry) (previous : Option Entry) (sh : Shared)
      (free : IndexFree sh.maxEntries others) :
      CallStep others (.addIndex e previous) sh (some (.addCount e previous))
        { sh with index := sh.index.replace e previous }
  /-- The add raises the count if it replaced nothing, and releases the guard. -/
  | count (e : Entry) (previous : Option Entry) (sh : Shared) :
      CallStep others (.addCount e previous) sh (some .evictCheck)
        { sh with count := if previous.isNone then sh.count + 1 else sh.count }
  /-- An unbounded store evicts nothing. -/
  | unbounded (sh : Shared) (zero : sh.maxEntries = 0) : CallStep others .evictCheck sh none sh
  /-- The loaded count is within the bound: the add returns. -/
  | within (sh : Shared) (bounded : 0 < sh.maxEntries) (fits : sh.count ≤ sh.maxEntries) :
      CallStep others .evictCheck sh none sh
  /-- The loaded count is over the bound. -/
  | exceeded (sh : Shared) (bounded : 0 < sh.maxEntries) (above : sh.maxEntries < sh.count) :
      CallStep others .evictCheck sh (some .evictPick) sh
  /-- Under the index mutex, with the clock at `now`, the add picks a victim; with none, it
  returns. -/
  | pick (sh : Shared) (now : Nat) (free : ∀ o ∈ others, o.locksIndex = false) :
      CallStep others .evictPick sh ((sh.index.victim now).map .evictRemove) sh
  /-- Under the guard of its resource, the victim is still stored with its sequence number: it is
  taken out of the map. -/
  | evict (victim : Slot) (x : Entry) (sh : Shared)
      (free : GuardFree sharding others (sharding.shard victim.uri))
      (found : sh.entries.find? (Store.sameVariant victim.uri victim.key) = some x)
      (current : x.sequence = victim.sequence) :
      CallStep others (.evictRemove victim) sh (some (.forgetIndex [x] (.evict victim.uri)))
        { sh with entries := sh.entries.filter fun y => !Store.sameVariant victim.uri victim.key y }
  /-- The victim was removed or replaced meanwhile: nothing is taken out. -/
  | stale (victim : Slot) (sh : Shared)
      (free : GuardFree sharding others (sharding.shard victim.uri))
      (moved : ∀ x, sh.entries.find? (Store.sameVariant victim.uri victim.key) = some x →
        x.sequence ≠ victim.sequence) :
      CallStep others (.evictRemove victim) sh (some .evictCheck) sh
  /-- Taking the index mutex, the slots of the entries taken out leave the index. -/
  | forgetIndex (gone : List Entry) (next : Resume) (sh : Shared)
      (free : IndexFree sh.maxEntries others) :
      CallStep others (.forgetIndex gone next) sh (some (.forgetCount gone next))
        { sh with index := gone.foldl EvictionIndex.erase sh.index }
  /-- The count is lowered by their number, and the index mutex released. -/
  | forgetCount (gone : List Entry) (next : Resume) (sh : Shared) :
      CallStep others (.forgetCount gone next) sh (next.next gone)
        { sh with count := sh.count - gone.length }
  /-- A remove takes the guard of its resource; a resource not stored is left at once. -/
  | removeAbsent (uri : String) (sh : Shared)
      (free : GuardFree sharding others (sharding.shard uri))
      (absent : ∀ x ∈ sh.entries, x.uri ≠ uri) :
      CallStep others (.remove uri) sh none sh
  /-- A stored resource has its entries forgotten first. -/
  | removeStored (uri : String) (sh : Shared)
      (free : GuardFree sharding others (sharding.shard uri))
      (stored : ∃ x ∈ sh.entries, x.uri = uri) :
      CallStep others (.remove uri) sh
        (some (.forgetIndex (sh.entries.filter (·.uri == uri)) (.remove uri))) sh
  /-- The resource leaves the map and the guard is released: the remove returns. -/
  | removeErase (gone : List Entry) (uri : String) (sh : Shared) :
      CallStep others (.erase gone (.remove uri)) sh none
        { sh with entries := sh.entries.filter (·.uri != uri) }
  /-- A clear takes the guard of its next shard. -/
  | clearShard (shard : Nat) (sh : Shared) (inRange : shard < sharding.shards)
      (free : GuardFree sharding others shard) :
      CallStep others (.clear shard) sh (some (.clearing shard)) sh
  /-- Past the last shard, the clear returns. -/
  | clearDone (shard : Nat) (sh : Shared) (past : sharding.shards ≤ shard) :
      CallStep others (.clear shard) sh none sh
  /-- Any stored resource of the shard has its entries forgotten. -/
  | clearStored (shard : Nat) (uri : String) (sh : Shared) (inShard : sharding.shard uri = shard)
      (stored : ∃ x ∈ sh.entries, x.uri = uri) :
      CallStep others (.clearing shard) sh
        (some (.forgetIndex (sh.entries.filter (·.uri == uri)) (.clear uri shard))) sh
  /-- The resource leaves the map. -/
  | clearErase (gone : List Entry) (uri : String) (shard : Nat) (sh : Shared) :
      CallStep others (.erase gone (.clear uri shard)) sh (some (.clearing shard))
        { sh with entries := sh.entries.filter (·.uri != uri) }
  /-- With the shard empty, its guard is released. -/
  | clearNext (shard : Nat) (sh : Shared)
      (empty : ∀ x ∈ sh.entries, sharding.shard x.uri ≠ shard) :
      CallStep others (.clearing shard) sh (some (.clear (shard + 1))) sh
  /-- A purge takes the guard of its next shard. -/
  | purgeShard (cutoff shard : Nat) (sh : Shared) (inRange : shard < sharding.shards)
      (free : GuardFree sharding others shard) :
      CallStep others (.purge cutoff shard) sh (some (.purging cutoff shard [])) sh
  /-- Past the last shard, the purge returns. -/
  | purgeDone (cutoff shard : Nat) (sh : Shared) (past : sharding.shards ≤ shard) :
      CallStep others (.purge cutoff shard) sh none sh
  /-- A stored resource of the shard not visited yet loses its expired entries, which are then
  forgotten. -/
  | purgeStored (cutoff shard : Nat) (visited : List String) (uri : String) (sh : Shared)
      (inShard : sharding.shard uri = shard) (stored : ∃ x ∈ sh.entries, x.uri = uri)
      (fresh : uri ∉ visited) :
      CallStep others (.purging cutoff shard visited) sh
        (some (.forgetIndex (sh.entries.filter fun x => x.uri == uri && x.isExpired cutoff)
          (.purge cutoff shard (uri :: visited))))
        { sh with entries := sh.entries.filter fun x => !(x.uri == uri && x.isExpired cutoff) }
  /-- With every stored resource of the shard visited, its guard is released. -/
  | purgeNext (cutoff shard : Nat) (visited : List String) (sh : Shared)
      (done : ∀ x ∈ sh.entries, sharding.shard x.uri = shard → x.uri ∈ visited) :
      CallStep others (.purging cutoff shard visited) sh (some (.purge cutoff (shard + 1))) sh

/-- The shared store and the calls in flight. -/
structure System where
  /-- The shared state. -/
  shared : Shared
  /-- The calls in flight, each at its next step. -/
  calls : List Call

/-- One step of a run: a call starts, or a call in flight takes an atomic step while the others
wait. -/
inductive System.Step : System → System → Prop
  /-- A call starts. -/
  | begin (shared : Shared) (calls : List Call) (invocation : Invocation) :
      System.Step ⟨shared, calls⟩ ⟨shared, calls ++ [invocation.call]⟩
  /-- A call in flight takes a step; one that returns leaves the calls in flight. -/
  | run (shared shared' : Shared) (before after : List Call) (c : Call) (next : Option Call)
      (atomic : CallStep sharding (before ++ after) c shared next shared') :
      System.Step ⟨shared, before ++ c :: after⟩ ⟨shared', before ++ next.toList ++ after⟩

/-- The systems that runs reach from an empty store bounded by `maxEntries` (0 for none). -/
inductive System.Reachable (maxEntries : Nat) : System → Prop
  /-- The empty store, with no call in flight. -/
  | empty : System.Reachable maxEntries ⟨{ maxEntries }, []⟩
  /-- One more step. -/
  | step {sys sys' : System} : System.Reachable maxEntries sys → System.Step sharding sys sys' →
      System.Reachable maxEntries sys'

end Steps

end Cache
end ResponseCache
