import ResponseCache.Proofs.Cache.FailOpen
import ResponseCache.Proofs.Cache.SelectionOrder
/-!
# Purging never changes an answer from a fresh variant

A purge at clock reading `now` with any grace drops the entries that expired at or before
`now - grace`, never later than `now`, so it keeps every entry still fresh at `now`, and it lists
the variants of a resource it keeps in their old order. The choice survives dropping other
candidates (`selectVariant_filter_of_keep`), so a request whose lookup chose a variant fresh at
the clock's reading chooses it again after the purge, is decided the same way and gets the same
reply (`purge_keeps_fresh_answer`). The same holds after any number of sweeper ticks, each a
purge at a clock reading no later than the request's.
-/

namespace ResponseCache
namespace Cache

open Http

theorem Store.get_purgeExpired (s : Store) (now grace : Nat) (uri : String) :
    (s.purgeExpired now grace).1.get uri = (s.get uri).filter (!·.isExpired (now - grace)) := by
  simp only [purgeExpired_eq, get, List.filter_filter, Bool.and_comm]

theorem Entry.isExpired_eq_false_of_le {e : Entry} {t now : Nat} (fresh : e.isExpired now = false)
    (earlier : t ≤ now) : e.isExpired t = false := by
  simp only [Entry.isExpired, decide_eq_false_iff_not, Nat.not_le] at fresh ⊢
  omega

/-- The cutoff of a purge, counted over the integers: an entry has expired by `now - grace` when
it expired `grace` seconds or more before `now`, or, as the cutoff stops at zero, when it expired
at time zero, whatever the grace. -/
theorem Entry.isExpired_cutoff_iff (e : Entry) (now grace : Nat) :
    e.isExpired (now - grace) = true ↔
      (grace : Int) ≤ (now : Int) - (e.expiresAt : Int) ∨ e.expiresAt = 0 := by
  simp only [Entry.isExpired, decide_eq_true_eq]
  omega

/-- A purge at `now` with grace `grace` keeps the entries that expired less than `grace` seconds
before `now` and after time zero, and drops and counts the others. -/
theorem Store.purgeExpired_drops (s : Store) (now grace : Nat) :
    (s.purgeExpired now grace).1.entries = s.entries.filter (fun e =>
        !decide ((grace : Int) ≤ (now : Int) - (e.expiresAt : Int) ∨ e.expiresAt = 0)) ∧
      (s.purgeExpired now grace).2 = (s.entries.filter fun e =>
        decide ((grace : Int) ≤ (now : Int) - (e.expiresAt : Int) ∨ e.expiresAt = 0)).length := by
  have cutoff : ∀ e : Entry, e.isExpired (now - grace) =
      decide ((grace : Int) ≤ (now : Int) - (e.expiresAt : Int) ∨ e.expiresAt = 0) := fun e => by
    rw [Bool.eq_iff_iff, decide_eq_true_iff]
    exact e.isExpired_cutoff_iff now grace
  rw [purgeExpired_eq]
  simp only [cutoff, and_self]

namespace Manager

/-- One tick of the sweeper: a purge with grace `tick.2` while the clock reads `tick.1`. -/
def tick (m : Manager) (tick : Nat × Nat) : Manager :=
  ({ m with now := tick.1 }.purgeExpired tick.2).1

/-- The cache after the sweeper's ticks, with the clock back at its reading. -/
def afterTicks (m : Manager) (ticks : List (Nat × Nat)) : Manager :=
  { ticks.foldl tick m with now := m.now }

/-- Whether an entry outlives every tick: it had not expired at any tick's cutoff. -/
def Outlives (ticks : List (Nat × Nat)) (e : Entry) : Bool :=
  ticks.all fun tick => !e.isExpired (tick.1 - tick.2)

/-- The ticks keep, of the variants of each resource, those that outlive them, in order. -/
theorem foldl_tick_get (ticks : List (Nat × Nat)) :
    ∀ {m : Manager} {s : Store}, m.backend = .memory s →
      ∃ s', (ticks.foldl tick m).backend = .memory s' ∧
        ∀ uri, s'.get uri = (s.get uri).filter (Outlives ticks) := by
  induction ticks with
  | nil => exact fun memory => ⟨_, memory, fun _ => (List.filter_eq_self.mpr fun _ _ => rfl).symm⟩
  | cons first rest ih =>
      intro m s memory
      have purged : (m.tick first).backend = .memory (s.purgeExpired first.1 first.2).1 := by
        simp [tick, purgeExpired, memory]
      obtain ⟨s', swept, kept⟩ := ih purged
      refine ⟨s', swept, fun uri => ?_⟩
      rw [kept, Store.get_purgeExpired, List.filter_filter]
      congr 1
      funext x
      exact Bool.and_comm _ _

theorem afterTicks_backend (m : Manager) (ticks : List (Nat × Nat)) :
    (m.afterTicks ticks).backend = (ticks.foldl tick m).backend := rfl

@[simp]
theorem afterTicks_now (m : Manager) (ticks : List (Nat × Nat)) :
    (m.afterTicks ticks).now = m.now := rfl

@[simp]
theorem purgeExpired_now (m : Manager) (grace : Nat) : (m.purgeExpired grace).1.now = m.now := by
  unfold purgeExpired
  split <;> rfl

/-- One tick at the clock's reading is a purge. -/
theorem afterTicks_now_tick (m : Manager) (grace : Nat) :
    m.afterTicks [(m.now, grace)] = (m.purgeExpired grace).1 := by
  obtain ⟨backend, now, next⟩ := m
  cases backend <;> rfl

end Manager

section Lookup

variable {m : Manager} {req : Request} {e : Entry}

/-- A lookup that chose a variant chooses it again after ticks that it outlives. -/
theorem lookup_afterTicks (found : lookup m req = some e) {ticks : List (Nat × Nat)}
    (outlives : Manager.Outlives ticks e = true) : lookup (m.afterTicks ticks) req = some e := by
  cases memory : m.backend with
  | failing errors =>
      rw [lookup_of_failing m req memory] at found
      cases found
  | memory s =>
      obtain ⟨s', swept, kept⟩ := Manager.foldl_tick_get ticks memory
      rw [lookup_of_memory memory] at found
      rw [lookup_of_memory ((m.afterTicks_backend ticks).trans swept), kept]
      exact selectVariant_filter_of_keep found outlives

/-- A variant fresh at the clock's reading outlives ticks at readings no later than it. -/
theorem outlives_of_fresh (fresh : e.isExpired m.now = false) {ticks : List (Nat × Nat)}
    (before : ∀ tick ∈ ticks, tick.1 ≤ m.now) : Manager.Outlives ticks e = true := by
  simp only [Manager.Outlives, List.all_eq_true, Bool.not_eq_true']
  intro tick listed
  exact Entry.isExpired_eq_false_of_le fresh (Nat.le_trans (Nat.sub_le _ _) (before tick listed))

theorem lookup_purgeExpired (found : lookup m req = some e) (fresh : e.isExpired m.now = false)
    (grace : Nat) : lookup (m.purgeExpired grace).1 req = some e := by
  rw [← Manager.afterTicks_now_tick]
  exact lookup_afterTicks found (outlives_of_fresh fresh fun _ listed =>
    Nat.le_of_eq (congrArg Prod.fst (List.mem_singleton.mp listed)))

end Lookup

theorem lookupOutcome_eq_of_lookup_eq {m m' : Manager} {req : Request} (sameClock : m'.now = m.now)
    (sameLookup : lookup m' req = lookup m req) : lookupOutcome m' req = lookupOutcome m req := by
  rw [lookupOutcome, lookupOutcome, sameLookup, sameClock]

/-- Two caches at the same clock reading whose lookups agree on a request, and decide on no
expired variant, give it the same reply after as many handler calls. -/
theorem handle_agrees {σ : Type} (h : Handler σ) (st : σ) {m m' : Manager} {req : Request}
    (sameClock : m'.now = m.now) (sameLookup : lookup m' req = lookup m req)
    (notExpired : ∀ previous, lookupOutcome m req ≠ .delegate (.expired previous)) :
    (handle true h st m' req).reply = (handle true h st m req).reply ∧
      (handle true h st m' req).handlerCalls = (handle true h st m req).handlerCalls := by
  have sameOutcome := lookupOutcome_eq_of_lookup_eq sameClock sameLookup
  cases outcome : lookupOutcome m req with
  | delegate reason =>
      have notExpiredReason : ∀ previous, reason ≠ .expired previous :=
        fun previous same => notExpired previous (by rw [outcome, same])
      exact (passedThrough_of_delegate h st m' req (sameOutcome.trans outcome)
        notExpiredReason).agree (passedThrough_of_delegate h st m req outcome notExpiredReason)
  | cached e | notModified e =>
      rw [handle_true_eq, handle_true_eq, sameOutcome, outcome, sameClock]
      by_cases invalidating : req.method.invalidates = true
      · rw [if_pos invalidating, if_pos invalidating]
        exact (passedThrough_invalidateAfter h st m' req _).agree
          (passedThrough_invalidateAfter h st m req _)
      · rw [if_neg invalidating, if_neg invalidating]
        split <;> exact ⟨rfl, rfl⟩

/-- Purging never changes an answer from a fresh variant: when a request's lookup chooses a
variant that is fresh at the clock's reading, a purge at that reading with any grace leaves the
lookup, the decision and the reply as they were, and so do any sweeper ticks at readings no
later than it. -/
theorem purge_keeps_fresh_answer {σ : Type} (h : Handler σ) (st : σ) {m : Manager}
    {req : Request} {e : Entry} (found : lookup m req = some e)
    (fresh : e.isExpired m.now = false) :
    (∀ grace, lookup (m.purgeExpired grace).1 req = some e ∧
      lookupOutcome (m.purgeExpired grace).1 req = lookupOutcome m req ∧
      (handle true h st (m.purgeExpired grace).1 req).reply = (handle true h st m req).reply ∧
      (handle true h st (m.purgeExpired grace).1 req).handlerCalls =
        (handle true h st m req).handlerCalls) ∧
    ∀ ticks : List (Nat × Nat), (∀ tick ∈ ticks, tick.1 ≤ m.now) →
      lookup (m.afterTicks ticks) req = some e ∧
      lookupOutcome (m.afterTicks ticks) req = lookupOutcome m req ∧
      (handle true h st (m.afterTicks ticks) req).reply = (handle true h st m req).reply ∧
      (handle true h st (m.afterTicks ticks) req).handlerCalls =
        (handle true h st m req).handlerCalls := by
  have notExpired : ∀ previous, lookupOutcome m req ≠ .delegate (.expired previous) := by
    intro previous
    rw [lookupOutcome, found, evaluate, if_neg (by simp [fresh])]
    split_ifs <;> simp
  have agrees : ∀ m' : Manager, m'.now = m.now → lookup m' req = some e →
      lookup m' req = some e ∧ lookupOutcome m' req = lookupOutcome m req ∧
      (handle true h st m' req).reply = (handle true h st m req).reply ∧
      (handle true h st m' req).handlerCalls = (handle true h st m req).handlerCalls := by
    intro m' sameClock chosen
    have sameLookup := chosen.trans found.symm
    exact ⟨chosen, lookupOutcome_eq_of_lookup_eq sameClock sameLookup,
      handle_agrees h st sameClock sameLookup notExpired⟩
  refine ⟨fun grace => agrees _ (Manager.purgeExpired_now m grace)
    (lookup_purgeExpired found fresh grace), fun ticks before => ?_⟩
  exact agrees _ rfl (lookup_afterTicks found (outlives_of_fresh fresh before))

/-- An answer stored at time 0 with a max-age of 60 and looked up at time 30 gets the same reply
after a purge at 30 with a grace of 5, and after sweeper ticks at 10 and at 30. -/
theorem purge_keeps_fresh_answer_at_thirty :
    let stored : NewEntry :=
      ⟨"/", Media.MediaType.octetStream, { maxAge := some 60 }, {}, [], "v1", {}⟩
    let m : Manager := { (({ backend := .memory {} } : Manager).add stored).1 with now := 30 }
    let req : Request := { method := .get, uri := ⟨true, [120], [], none⟩ }
    let handler : Handler Unit := ⟨fun st _ => (st, .ok ⟨200, {}, []⟩)⟩
    lookup m req = some (stored.entryAt 0 0) ∧ (stored.entryAt 0 0).isExpired m.now = false ∧
      (handle true handler () (m.purgeExpired 5).1 req).reply =
        (handle true handler () m req).reply ∧
      (∀ tick ∈ [(10, 0), (30, 100)], tick.1 ≤ m.now) ∧
      (handle true handler () (m.afterTicks [(10, 0), (30, 100)]) req).reply =
        (handle true handler () m req).reply := by
  intro stored m req handler
  have found : lookup m req = some (stored.entryAt 0 0) := by
    rw [lookup_of_memory
      (show m.backend = .memory (({} : Store).add 0 (stored.entryAt 0 0)) from rfl)]
    have single : (({} : Store).add 0 (stored.entryAt 0 0)).get req.uri.cacheKey =
        [stored.entryAt 0 0] := by decide
    rw [single]
    exact selectVariant_singleton (by decide) (⟨by decide, by decide⟩ : Rated _ _ ⟨1000, 0⟩)
  have fresh : (stored.entryAt 0 0).isExpired m.now = false := by decide
  have before : ∀ tick ∈ [(10, 0), (30, 100)], tick.1 ≤ m.now := by decide
  have kept := purge_keeps_fresh_answer handler () found fresh
  exact ⟨found, fresh, (kept.1 5).2.2.1, before, (kept.2 _ before).2.2.1⟩

end Cache
end ResponseCache
