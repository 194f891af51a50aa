import ResponseCache.Proofs.Cache.Selection
import ResponseCache.Proofs.Cache.VaryFit
import ResponseCache.Proofs.Cache.StoreInvariant
/-!
# A repeated request within the lifetime of its answer

A GET whose answer was just stored finds that answer again: an add keeps the new entry, since
eviction takes an expired entry first and otherwise the oldest; the new entry fits the request,
since its vary values were taken from it; and the selection returns it or a variant ranked above
it. So the request is answered from the cache while the chosen variant is fresh
(`repeated_get_answered_from_cache`).

Freshness takes no part in the ranking. An older variant that the request's Accept matches by a
more specific range outranks the new one even once it has expired, and then the request goes
to the handler again (`expired_specific_variant_outranks_stored_answer`).
-/

namespace ResponseCache
namespace Cache

open Http

/-- The entry an add makes of a response, created at `createdAt` with number `sequence`. -/
def NewEntry.entryAt (n : NewEntry) (createdAt sequence : Nat) : Entry :=
  Entry.create n.uri n.media (CapturedHeaders.capture n.headers) n.body n.etag
    (n.directives.maxAge.getD 0) createdAt n.vary sequence

theorem Manager.add_of_memory {m : Manager} {s : Store} (memory : m.backend = .memory s)
    (n : NewEntry) :
    m.add n = ({ m with nextSequence := addWrap m.nextSequence 1,
                        backend := .memory (s.add m.now (n.entryAt m.now m.nextSequence)) },
               .ok (n.entryAt m.now m.nextSequence)) := by
  simp [Manager.add, memory, NewEntry.entryAt]

theorem Entry.StoredBefore.sequence_le {a b : Entry} (before : a.StoredBefore b) :
    a.sequence ≤ b.sequence := by
  rcases before with earlier | ⟨same, _⟩
  · exact Nat.le_of_lt earlier
  · exact Nat.le_of_eq same

namespace Store

theorem exists_ne_of_nodup {l : List Entry} (nodup : l.Nodup) (long : 2 ≤ l.length) (e : Entry) :
    ∃ x ∈ l, x ≠ e := by
  by_contra none
  simp only [not_exists, not_and, not_not] at none
  have all : l = List.replicate l.length e := List.eq_replicate_iff.mpr ⟨rfl, none⟩
  rw [all, List.nodup_replicate] at nodup
  omega

/-- An add keeps the entry it stores, when the store shares the cache's clock, the entry is fresh
then, and it is numbered after every stored entry: eviction takes an expired entry when there is
one and the oldest otherwise. -/
theorem mem_add_self {s : Store} (coherent : s.Coherent) (sharedClock : s.ownClock = none)
    {now : Nat} {e : Entry} (fresh : now < e.expiresAt)
    (newest : ∀ x ∈ s.entries, x.sequence < e.sequence) : e ∈ (s.add now e).entries := by
  have consistent := coherent.toConsistent.insertEntry e
  have inserted : e ∈ (s.insertEntry e).entries := mem_insertEntry.mpr (.inl rfl)
  by_cases overfull : 0 < s.maxEntries ∧ s.maxEntries < (s.insertEntry e).count
  · obtain ⟨v, victim, added, -⟩ := coherent.add_of_over now overfull.1 overfull.2
    rw [sharedClock, Option.getD_none] at victim
    obtain ⟨x, held, other⟩ : ∃ x ∈ (s.insertEntry e).entries, x ≠ e := by
      refine exists_ne_of_nodup consistent.unique.nodup ?_ e
      have grows := insertEntry_count_le s e
      rw [← consistent.count_eq]
      omega
    have older : x.sequence < e.sequence := by
      rcases mem_insertEntry.mp held with same | ⟨stored, _⟩
      · exact absurd same other
      · exact newest x stored
    have spared : v ≠ e := by
      rintro rfl
      by_cases expired : ∃ y, y ∈ (s.insertEntry v).entries ∧ y.expiresAt ≤ now
      · have due := (victim.first_expired expired).1
        omega
      · have first := (victim.first_stored expired x held other).sequence_le
        omega
    rw [added, removeSlot_ofEntry consistent.unique victim.holds, List.mem_filter]
    refine ⟨inserted, ?_⟩
    rw [Bool.not_eq_true', Bool.eq_false_iff]
    intro same
    exact spared (consistent.unique.eq_of_mapKey_eq victim.holds inserted
      (sameVariant_iff.mp same).symm)
  · rw [add_of_within (by omega)]
    exact inserted

end Store

section Pipeline

variable {σ : Type}

theorem lookup_of_memory {m : Manager} {s : Store} (memory : m.backend = .memory s)
    (req : Request) :
    lookup m req = selectVariant (s.get req.uri.cacheKey) (Media.Accept.ofHeaders req.headers)
      req.headers := by
  simp [lookup, Manager.get, memory]

/-- When the handler ran on a GET and its answer may be stored, the cache afterwards holds that
answer added. -/
theorem handle_cache_of_stores {h : Handler σ} {st : σ} {m : Manager} {req : Request}
    {resp : Response} {n : NewEntry} (ran : (handle true h st m req).handlerCalls = 1)
    (answered : (h.call st req).2 = .ok resp) (get : req.method = .get)
    (stores : StoresAs req.uri.cacheKey req.headers resp n) :
    (handle true h st m req).cache = (m.add n).1 := by
  rcases handle_answers_or_runs_handler h st m req with itself | handler
  · rw [itself.noCall] at ran
    cases ran
  · exact Settled.unique (handler.settled resp answered) (.stored n get stores)

/-- A GET or HEAD whose lookup finds a variant that is fresh and passes If-Match is answered by
the cache alone. -/
theorem answeredItself_of_fresh (h : Handler σ) (st : σ) {m : Manager} {req : Request}
    {e : Entry} (cacheable : req.method.isCacheable = true) (found : lookup m req = some e)
    (fresh : e.isExpired m.now = false)
    (passes : (Validation.Conditions.ofHeaders req.headers).matchFails e.etag = false) :
    AnsweredItself st m req (handle true h st m req) := by
  have safe := Method.isSafe_of_isCacheable cacheable
  rw [handle_true_eq, if_neg (by simp [Method.invalidates, safe]), if_neg (by simp [cacheable])]
  cases held : (Validation.Conditions.ofHeaders req.headers).noneMatch e.etag
  · have outcome : lookupOutcome m req = .cached e :=
      evaluate_eq_cached_iff.mpr ⟨found, fresh, passes, held⟩
    rw [outcome]
    exact ⟨rfl, rfl, rfl, cacheable, e, .inl ⟨outcome, rfl⟩⟩
  · have outcome : lookupOutcome m req = .notModified e :=
      evaluate_eq_notModified_iff.mpr ⟨found, fresh, passes, held⟩
    rw [outcome]
    exact ⟨rfl, rfl, rfl, cacheable, e, .inr ⟨outcome, rfl⟩⟩

theorem ranHandler_of_delegate (h : Handler σ) (st : σ) {m : Manager} {req : Request}
    {reason : Revalidation} (cacheable : req.method.isCacheable = true)
    (delegated : lookupOutcome m req = .delegate reason) :
    RanHandler h st m req (handle true h st m req) := by
  have safe := Method.isSafe_of_isCacheable cacheable
  rw [handle_true_eq, if_neg (by simp [Method.invalidates, safe]), if_neg (by simp [cacheable]),
    delegated]
  exact ranHandler_recompute cacheable delegated

/-- A GET without If-Match whose answer was stored with a positive max-age that does not reach
past the largest clock reading, in a reachable store on the cache's clock whose entries are
numbered below the next number, is answered by the cache alone when it is sent again before
that answer expires, provided no variant that fits it and outranks the new entry has expired
by then. -/
theorem repeated_get_answered_from_cache (h h' : Handler σ) (st st'' : σ) {m : Manager}
    {s : Store} {req : Request} (memory : m.backend = .memory s) (reachable : s.Reachable)
    (sharedClock : s.ownClock = none) (numbered : ∀ e ∈ s.entries, e.sequence < m.nextSequence)
    (get : req.method = .get)
    (noIfMatch : (Validation.Conditions.ofHeaders req.headers).ifMatch = none)
    {resp : Response} {n : NewEntry} {ttl : Nat} {p : Media.Preference} {t : Nat}
    (ran : (handle true h st m req).handlerCalls = 1) (answered : (h.call st req).2 = .ok resp)
    (stores : StoresAs req.uri.cacheKey req.headers resp n)
    (lifetime : n.directives.maxAge = some ttl) (positive : 0 < ttl)
    (unsaturated : m.now + ttl ≤ Text.wordMax)
    (rated : Rated (Media.Accept.ofHeaders req.headers) (n.entryAt m.now m.nextSequence) p)
    (within : t < m.now + ttl)
    (outranked : ∀ e ∈ (s.add m.now (n.entryAt m.now m.nextSequence)).get req.uri.cacheKey,
      e ≠ n.entryAt m.now m.nextSequence → e.vary.mayVary req.headers = false →
      ∀ q, Rated (Media.Accept.ofHeaders req.headers) e q →
      rankGe (rankKey q e) (rankKey p (n.entryAt m.now m.nextSequence)) = true →
      e.isExpired t = false) :
    AnsweredItself st'' { (handle true h st m req).cache with now := t } req
      (handle true h' st'' { (handle true h st m req).cache with now := t } req) := by
  have cache := handle_cache_of_stores ran answered get stores
  rw [Manager.add_of_memory memory] at cache
  obtain ⟨-, d, ttl', tag, names, -, -, -, -, -, -, shape⟩ := id stores
  have expires : (n.entryAt m.now m.nextSequence).expiresAt = m.now + ttl := by
    simp only [NewEntry.entryAt, Entry.create, addSat, lifetime, Option.getD_some]
    omega
  have survives : n.entryAt m.now m.nextSequence ∈
      (s.add m.now (n.entryAt m.now m.nextSequence)).entries :=
    Store.mem_add_self reachable.coherent sharedClock (by omega) numbered
  have listed : n.entryAt m.now m.nextSequence ∈
      (s.add m.now (n.entryAt m.now m.nextSequence)).get req.uri.cacheKey :=
    List.mem_filter.mpr ⟨survives, by simp [NewEntry.entryAt, Entry.create, shape]⟩
  have fits : (n.entryAt m.now m.nextSequence).vary.mayVary req.headers = false := by
    simp only [NewEntry.entryAt, Entry.create, shape]
    exact capture_mayVary_eq_false req.headers names
  obtain ⟨e, chosen⟩ := selectVariant_isSome listed fits rated
  obtain ⟨member, chosenFits, q, chosenRated, best⟩ := selectVariant_eq_some chosen
  have fresh : e.isExpired t = false := by
    by_cases same : e = n.entryAt m.now m.nextSequence
    · rw [same, Entry.isExpired, expires]
      simpa using within
    · rcases best _ listed fits p rated with same' | above
      · exact absurd same'.symm same
      · exact outranked e member same chosenFits q chosenRated above
  refine answeredItself_of_fresh h' st'' (by simp [get, Method.isCacheable]) ?_ fresh
    (by simp [Validation.Conditions.matchFails, noIfMatch])
  rw [lookup_of_memory (show { (handle true h st m req).cache with now := t }.backend =
    .memory (s.add m.now (n.entryAt m.now m.nextSequence)) by simp [cache])]
  exact chosen

/-- The repeated request of the theorem above, in a store bounded to two entries that holds an
expired HTML variant and a fresh CSS one. The request prefers HTML, so its first lookup finds the
expired variant and runs the handler; the plain-text answer is stored at time 10 and evicts the
expired variant; sent again at time 30, the request is answered by the cache alone. -/
theorem repeated_get_answered_after_eviction :
    let text (s : String) : HeaderValue := ⟨s.toList.map fun c => c.toNat.toUInt8⟩
    let answer (media tag age : String) : Response :=
      ⟨200, ⟨[(HeaderName.contentType, text media), (HeaderName.cacheControl, text age),
        (HeaderName.etag, text tag)]⟩, []⟩
    let html : NewEntry := ⟨"/", ⟨"text", "html"⟩, { maxAge := some 5 },
      (answer "text/html" "\"a\"" "max-age=5").headers, [], "a", {}⟩
    let css : NewEntry := ⟨"/", ⟨"text", "css"⟩, { maxAge := some 100 },
      (answer "text/css" "\"c\"" "max-age=100").headers, [], "c", {}⟩
    let s := ((Store.bounded 2).add 0 (html.entryAt 0 0)).add 0 (css.entryAt 0 1)
    let m : Manager := { backend := .memory s, now := 10, nextSequence := 2 }
    let req : Request := { method := .get, uri := ⟨true, [120], [], none⟩,
                           headers := ⟨[(HeaderName.accept, text "text/html, text/*")]⟩ }
    let handler : Handler Unit := ⟨fun st _ => (st, .ok (answer "text/plain" "\"b\"" "max-age=60"))⟩
    s.Reachable ∧ (∀ e ∈ s.entries, e.sequence < m.nextSequence) ∧
      (handle true handler () m req).handlerCalls = 1 ∧
      AnsweredItself () { (handle true handler () m req).cache with now := 30 } req
        (handle true handler () { (handle true handler () m req).cache with now := 30 } req) := by
  intro text answer html css s m req handler
  let plain := answer "text/plain" "\"b\"" "max-age=60"
  let stored : NewEntry := ⟨"/", ⟨"text", "plain"⟩, { maxAge := some 60 }, plain.headers, [],
    "b", VarySnapshot.capture req.headers []⟩
  have reachable : s.Reachable := ⟨2, none, .tail (.single (.add _ _ _)) (.add _ _ _)⟩
  have numbered : ∀ e ∈ s.entries, e.sequence < m.nextSequence := by decide
  have stores : StoresAs req.uri.cacheKey req.headers plain stored :=
    storable_eq_some_iff.mp (by simp only [stored, plain, answer, text, req]; rfl)
  have ratedOld : Rated (Media.Accept.ofHeaders req.headers) (html.entryAt 0 0) ⟨1000, 2⟩ :=
    ⟨by decide, by decide⟩
  have ratedCss : Rated (Media.Accept.ofHeaders req.headers) (css.entryAt 0 1) ⟨1000, 1⟩ :=
    ⟨by decide, by decide⟩
  have first : lookupOutcome m req = .delegate (.expired "a") := by
    have chosen : lookup m req = some (html.entryAt 0 0) := by
      rw [lookup_of_memory (show m.backend = .memory s from rfl)]
      have both : s.get req.uri.cacheKey = [html.entryAt 0 0, css.entryAt 0 1] := by decide
      rw [both]
      exact selectVariant_pair (by decide) ratedOld ratedCss.1 (by decide)
    rw [lookupOutcome, chosen]
    rfl
  have ran := (ranHandler_of_delegate handler () rfl first).oneCall
  have kept : (s.add 10 (stored.entryAt 10 2)).get req.uri.cacheKey =
      [css.entryAt 0 1, stored.entryAt 10 2] := by decide
  refine ⟨reachable, numbered, ran, repeated_get_answered_from_cache handler handler () () rfl
    reachable rfl numbered rfl (by decide) ran rfl stores rfl (by decide) (by decide)
    (⟨by decide, by decide⟩ : Rated _ _ ⟨1000, 1⟩) (by decide) ?_⟩
  intro e member other _ _ _ _
  have cssOne : e = css.entryAt 0 1 := by
    rw [kept] at member
    rcases List.mem_cons.mp member with same | later
    · exact same
    · exact absurd (List.mem_singleton.mp later) other
  subst cssOne
  decide

/-- A variant that the request's Accept matches by a more specific range outranks the answer just
stored, even after it has expired; so the request, sent again at once, goes to the handler
again. -/
theorem expired_specific_variant_outranks_stored_answer :
    let text (s : String) : HeaderValue := ⟨s.toList.map fun c => c.toNat.toUInt8⟩
    let answer (media tag age : String) : Response :=
      ⟨200, ⟨[(HeaderName.contentType, text media), (HeaderName.cacheControl, text age),
        (HeaderName.etag, text tag)]⟩, []⟩
    let html : NewEntry := ⟨"/", ⟨"text", "html"⟩, { maxAge := some 1 },
      (answer "text/html" "\"a\"" "max-age=1").headers, [], "a", {}⟩
    let before : Manager := { (({ backend := .memory {} } : Manager).add html).1 with now := 5 }
    let req : Request := { method := .get, uri := ⟨true, [120], [], none⟩,
                           headers := ⟨[(HeaderName.accept, text "text/html, */*")]⟩ }
    let plain := answer "text/plain" "\"b\"" "max-age=60"
    let handler : Handler Unit := ⟨fun st _ => (st, .ok plain)⟩
    let stored : NewEntry := ⟨"/", ⟨"text", "plain"⟩, { maxAge := some 60 }, plain.headers, [],
      "b", VarySnapshot.capture req.headers []⟩
    let after := (handle true handler () before req).cache
    (handle true handler () before req).handlerCalls = 1 ∧
      StoresAs req.uri.cacheKey req.headers plain stored ∧
      Rated (Media.Accept.ofHeaders req.headers) (stored.entryAt 5 1) ⟨1000, 0⟩ ∧
      (handle true handler () { after with now := 5 } req).handlerCalls = 1 := by
  intro text answer html before req plain handler stored after
  have cacheable : req.method.isCacheable = true := rfl
  have stores : StoresAs req.uri.cacheKey req.headers plain stored :=
    storable_eq_some_iff.mp (by simp only [stored, plain, answer, text, req]; rfl)
  have ratedOld : Rated (Media.Accept.ofHeaders req.headers) (html.entryAt 0 0) ⟨1000, 2⟩ :=
    ⟨by decide, by decide⟩
  have ratedNew : Rated (Media.Accept.ofHeaders req.headers) (stored.entryAt 5 1) ⟨1000, 0⟩ :=
    ⟨by decide, by decide⟩
  let older : Store := ({} : Store).add 0 (html.entryAt 0 0)
  have first : lookupOutcome before req = .delegate (.expired "a") := by
    have chosen : lookup before req = some (html.entryAt 0 0) := by
      rw [lookup_of_memory (show before.backend = .memory older from rfl)]
      have single : older.get req.uri.cacheKey = [html.entryAt 0 0] := by decide
      rw [single]
      exact selectVariant_singleton (by decide) ratedOld
    rw [lookupOutcome, chosen]
    rfl
  have ran := ranHandler_of_delegate handler () cacheable first
  have cache : after = (before.add stored).1 := handle_cache_of_stores ran.oneCall rfl rfl stores
  rw [Manager.add_of_memory (show before.backend = .memory older from rfl)] at cache
  have second : lookupOutcome { after with now := 5 } req = .delegate (.expired "a") := by
    have backend : { after with now := 5 }.backend = .memory (older.add 5 (stored.entryAt 5 1)) := by
      rw [cache]
      rfl
    have chosen : lookup { after with now := 5 } req = some (html.entryAt 0 0) := by
      rw [lookup_of_memory backend]
      have both : (older.add 5 (stored.entryAt 5 1)).get req.uri.cacheKey =
          [html.entryAt 0 0, stored.entryAt 5 1] := by decide
      rw [both]
      exact selectVariant_pair (by decide) ratedOld ratedNew.1 (by decide)
    rw [lookupOutcome, chosen]
    rfl
  have ranAgain := ranHandler_of_delegate handler () cacheable second
  exact ⟨ran.oneCall, stores, ratedNew, ranAgain.oneCall⟩

end Pipeline

end Cache
end ResponseCache
