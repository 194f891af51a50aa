import ResponseCache.Proofs.Cache.RepeatedRequest
/-!
# If-Match before If-None-Match

A GET or HEAD that carries If-Match is answered by the cache alone, with a 200 or with the 304 of
the NotModified outcome, only from a variant whose tag the condition matches strongly; when the
handler runs, its answer is the reply as it is, but for one path (`if_match_gates_cache_answers`).
After an expired variant is computed again, an answer stored with the expired variant's tag is
replied to with a 304 when If-None-Match holds that tag (`recompute_reply`): that rule looks at
If-None-Match only.

The comparison is against the tag value the entry keeps. An entry keeps no weak flag, so a
response stored with a weak ETag is served for an If-Match that lists its value as a strong tag
(`weak_tag_served_for_strong_if_match`).
-/

namespace ResponseCache
namespace Cache

open Http

variable {σ : Type}

theorem matchesStrong_of_matchFails_eq_false {conds : Validation.Conditions}
    {c : Validation.TagCondition} {tag : String} (ifMatch : conds.ifMatch = some c)
    (passes : conds.matchFails tag = false) : c.matchesStrong tag = true := by
  simpa [Validation.Conditions.matchFails, ifMatch] using passes

theorem Manager.add_now (m : Manager) (n : NewEntry) : (m.add n).1.now = m.now := by
  rw [Manager.add]
  split <;> rfl

/-- A recompute replies with the handler's answer, but for one case: the variant it replaces had
expired, the answer is stored with that variant's tag, and If-None-Match holds the tag. Then the
reply is a 304 from the new entry. -/
theorem recompute_reply (h : Handler σ) (st : σ) (m : Manager) (req : Request) (uri : String)
    (conds : Validation.Conditions) (reason : Revalidation) :
    (recompute h st m req uri conds reason).reply = (h.call st req).2 ∨
      ∃ previous e, reason = .expired previous ∧ e.etag = previous ∧
        conds.noneMatch e.etag = true ∧
        (recompute h st m req uri conds reason).reply = .ok (notModified e m.now) := by
  rcases call : h.call st req with ⟨st', _ | resp⟩
  · rw [recompute_of_error call]
    exact .inl rfl
  · cases stores : storable uri req.headers resp with
    | none => exact .inl (by rw [recompute_of_not_stored call (.inr stores)])
    | some n =>
        cases storableMethod : req.method.isStorable
        · exact .inl (by rw [recompute_of_not_stored call (.inl storableMethod)])
        · obtain ⟨-, -, -, same | ⟨e, -, again, reply⟩⟩ :=
            recompute_of_stores m conds reason call storableMethod stores
          · exact .inl same
          · cases reason with
            | expired previous =>
                simp only [notModifiedAfterRecompute, Bool.and_eq_true, beq_iff_eq] at again
                rw [Manager.add_now] at reply
                exact .inr ⟨previous, e, rfl, again.1.symm, again.2, reply⟩
            | miss | precondition => cases again

theorem recompute_reply_of_not_expired (h : Handler σ) (st : σ) (m : Manager) (req : Request)
    (uri : String) (conds : Validation.Conditions) {reason : Revalidation}
    (notExpired : ∀ previous, reason ≠ .expired previous) :
    (recompute h st m req uri conds reason).reply = (h.call st req).2 := by
  rcases recompute_reply h st m req uri conds reason with same | ⟨previous, -, expired, -⟩
  · exact same
  · exact absurd expired (notExpired previous)

/-- A GET or HEAD with If-Match is answered by the cache alone only from a variant whose tag the
condition matches strongly. When the handler runs, the reply is its answer unchanged, unless the
chosen variant had expired, the answer was stored with that variant's tag and If-None-Match holds
it: then the reply is a 304 from the new entry, whatever If-Match says. -/
theorem if_match_gates_cache_answers (h : Handler σ) (st : σ) (m : Manager) (req : Request)
    {c : Validation.TagCondition} (cacheable : req.method.isCacheable = true)
    (ifMatch : (Validation.Conditions.ofHeaders req.headers).ifMatch = some c) :
    ((handle true h st m req).handlerCalls = 0 →
      ∃ e, lookup m req = some e ∧ c.matchesStrong e.etag = true ∧
        ((handle true h st m req).reply = .ok (fromCache e m.now (req.method == .head)) ∨
          (handle true h st m req).reply = .ok (notModified e m.now))) ∧
    ((handle true h st m req).handlerCalls = 1 →
      (handle true h st m req).reply = (h.call st req).2 ∨
        ∃ previous e, lookupOutcome m req = .delegate (.expired previous) ∧ e.etag = previous ∧
          (Validation.Conditions.ofHeaders req.headers).noneMatch e.etag = true ∧
          (handle true h st m req).reply = .ok (notModified e m.now)) := by
  have safe := Method.isSafe_of_isCacheable cacheable
  rw [handle_true_eq, if_neg (by simp [Method.invalidates, safe]), if_neg (by simp [cacheable])]
  cases outcome : lookupOutcome m req with
  | notModified e =>
      obtain ⟨found, -, passes, -⟩ := evaluate_eq_notModified_iff.mp outcome
      have strong := matchesStrong_of_matchFails_eq_false ifMatch passes
      exact ⟨fun _ => ⟨e, found, strong, .inr rfl⟩, fun one => by simp at one⟩
  | cached e =>
      obtain ⟨found, -, passes, -⟩ := evaluate_eq_cached_iff.mp outcome
      have strong := matchesStrong_of_matchFails_eq_false ifMatch passes
      exact ⟨fun _ => ⟨e, found, strong, .inl rfl⟩, fun one => by simp at one⟩
  | delegate reason =>
      refine ⟨fun zero => ?_, fun _ => ?_⟩
      · rw [(ranHandler_recompute cacheable outcome).oneCall] at zero
        cases zero
      · rcases recompute_reply h st m req req.uri.cacheKey _ reason with
          same | ⟨previous, e, rfl, tag, holds, reply⟩
        · exact .inl same
        · exact .inr ⟨previous, e, rfl, tag, holds, reply⟩

/-- A GET with If-Match to an empty cache is a miss, and the handler's answer is the reply. -/
theorem if_match_miss_returns_handler_answer :
    let text (s : String) : HeaderValue := ⟨s.toList.map fun c => c.toNat.toUInt8⟩
    let req : Request := { method := .get, uri := ⟨true, [120], [], none⟩,
                           headers := ⟨[(HeaderName.ifMatch, text "\"v1\"")]⟩ }
    let handler : Handler Unit := ⟨fun st _ => (st, .ok ⟨200, {}, []⟩)⟩
    let empty : Manager := { backend := .memory {} }
    (Validation.Conditions.ofHeaders req.headers).ifMatch = some (.tags [⟨"v1", false⟩]) ∧
      (handle true handler () empty req).handlerCalls = 1 ∧
      (handle true handler () empty req).reply = (handler.call () req).2 := by
  intro text req handler empty
  have miss : lookupOutcome empty req = .delegate .miss := by
    rw [lookupOutcome, lookup_of_memory (show empty.backend = .memory {} from rfl)]
    simp [selectVariant, ranked, Store.get, evaluate]
  have ifMatch : (Validation.Conditions.ofHeaders req.headers).ifMatch =
      some (.tags [⟨"v1", false⟩]) := by decide
  have ran := (ranHandler_of_delegate handler () rfl miss).oneCall
  have answered : (handle true handler () empty req).reply = (handler.call () req).2 := by
    rcases (if_match_gates_cache_answers handler () empty req rfl ifMatch).2 ran with
      same | ⟨previous, e, expired, -⟩
    · exact same
    · rw [miss] at expired
      cases expired
  exact ⟨ifMatch, ran, answered⟩

/-- A response stored with the weak ETag `W/"v1"` is served from the cache, as a 200 built from
that entry, for an If-Match that lists only the strong tag `"v1"`: the entry keeps the tag's
value and not its weakness. -/
theorem weak_tag_served_for_strong_if_match :
    let text (s : String) : HeaderValue := ⟨s.toList.map fun c => c.toNat.toUInt8⟩
    let weak : NewEntry := ⟨"/", Media.MediaType.octetStream, { maxAge := some 60 },
      ⟨[(HeaderName.cacheControl, text "max-age=60"), (HeaderName.etag, text "W/\"v1\"")]⟩,
      [120], "v1", {}⟩
    let m := (({ backend := .memory {} } : Manager).add weak).1
    let req : Request := { method := .get, uri := ⟨true, [120], [], none⟩,
                           headers := ⟨[(HeaderName.ifMatch, text "\"v1\"")]⟩ }
    let handler : Handler Unit := ⟨fun st _ => (st, .ok ⟨200, {}, []⟩)⟩
    (Validation.Conditions.ofHeaders req.headers).ifMatch = some (.tags [⟨"v1", false⟩]) ∧
      (handle true handler () m req).handlerCalls = 0 ∧
      (handle true handler () m req).reply = .ok (fromCache (weak.entryAt 0 0) 0 false) ∧
      (weak.entryAt 0 0).headers.get? "etag" = some [⟨.entityTag, "W/\"v1\""⟩] ∧
      Validation.EntityTag.parse? "W/\"v1\"" = some ⟨"v1", true⟩ := by
  intro text weak m req handler
  let stored : Store := ({} : Store).add 0 (weak.entryAt 0 0)
  have chosen : lookup m req = some (weak.entryAt 0 0) := by
    rw [lookup_of_memory (show m.backend = .memory stored from rfl)]
    have single : stored.get req.uri.cacheKey = [weak.entryAt 0 0] := by decide
    rw [single]
    exact selectVariant_singleton (by decide) (⟨by decide, by decide⟩ : Rated _ _ ⟨1000, 0⟩)
  have outcome : lookupOutcome m req = .cached (weak.entryAt 0 0) :=
    evaluate_eq_cached_iff.mpr ⟨chosen, by decide, by decide, by decide⟩
  have reply : (handle true handler () m req).reply =
      .ok (fromCache (weak.entryAt 0 0) m.now false) := by
    rw [handle_true_eq, if_neg (by decide), if_neg (by decide), outcome]
    rfl
  have answered := answeredItself_of_fresh handler () rfl chosen (by decide) (by decide)
  exact ⟨by decide, answered.noCall, reply, by decide, by decide⟩

end Cache
end ResponseCache
