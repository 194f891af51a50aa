import ResponseCache.Proofs.Cache.FailOpen
import ResponseCache.Proofs.Text.Elements
/-!
# A client that sends back the tag it was served

If-None-Match is read by splitting the header at every comma and reading each piece as a tag,
while the ETag of an answer is read whole as one tag. A tag written without a comma therefore
reads the same both ways: the condition made of it matches its value weakly
(`TagCondition.matchesWeak_parse?`), and a client that sends it back gets a 304, from a fresh
variant, or after an expired one is computed again into an answer whose tag has the same value
(`returned_tag_not_modified`).

A tag with a comma inside its quotes, such as `"a,b"`, reads as one tag of value `a,b` but as the
condition of the two tags `"a` and `b"`, neither of which has that value.
-/

namespace ResponseCache

namespace Validation

theorem EntityTag.parse?_trim (t : String) : EntityTag.parse? (Text.trim t) = EntityTag.parse? t := by
  simp only [EntityTag.parse?, EntityTag.normalize?, Text.trim, String.toList_ofList,
    Text.trimList_trimList]

theorem EntityTag.trim_ne_empty {t : String} {tag : EntityTag} (read : EntityTag.parse? t = some tag) :
    Text.trim t ≠ "" := by
  intro empty
  rw [Text.trim, String.ofList_eq_empty_iff] at empty
  simp [EntityTag.parse?, EntityTag.normalize?, empty] at read

namespace TagCondition

/-- A condition header of one tag token written without a comma reads as that tag, or as `*`. -/
theorem parse?_single {t : String} {tag : EntityTag} (noComma : ',' ∉ t.toList)
    (read : EntityTag.parse? t = some tag) :
    parse? t = some .any ∨ parse? t = some (.tags [tag]) := by
  have present := String.isEmpty_eq_false_iff.mpr (EntityTag.trim_ne_empty read)
  have whole : Text.splitAll ',' (Text.trim t) = [Text.trim t] :=
    Text.splitAll_of_not_mem (Text.not_mem_trim noComma)
  have single : parse? t = ofTokens [Text.trim t] := by
    simp [parse?, present, whole]
  rw [single]
  by_cases star : Text.trim t = "*"
  · left
    simp only [ofTokens, Text.trim_trim]
    rw [star]
    decide
  · right
    simp [ofTokens, Text.trim_trim, present, star, EntityTag.parse?_trim, read]

/-- The condition made of a tag written without a comma matches the tag's value weakly. -/
theorem matchesWeak_parse? {t : String} {tag : EntityTag} (noComma : ',' ∉ t.toList)
    (read : EntityTag.parse? t = some tag) : ∃ c, parse? t = some c ∧ c.matchesWeak tag.value := by
  rcases parse?_single noComma read with any | tags
  · exact ⟨_, any, rfl⟩
  · exact ⟨_, tags, by simp [matchesWeak]⟩

example : (parse? "\"a,b\"").map (·.matchesWeak "a,b") = some false ∧
    EntityTag.parse? "\"a,b\"" = some ⟨"a,b", false⟩ := by decide

theorem ofHeaders_single {hs : Http.Headers} {name : Http.HeaderName} {t : String}
    (sent : hs.texts name = [t]) : ofHeaders hs name = parse? (Text.trim t) := by
  simp [ofHeaders, sent]

end TagCondition

/-- A request whose one If-None-Match line is a tag written without a comma holds that tag. -/
theorem Conditions.noneMatch_of_sent {hs : Http.Headers} {t : String} {tag : EntityTag}
    (noComma : ',' ∉ t.toList) (read : EntityTag.parse? t = some tag)
    (sent : hs.texts Http.HeaderName.ifNoneMatch = [t]) :
    (Conditions.ofHeaders hs).noneMatch tag.value = true := by
  obtain ⟨c, parsed, holds⟩ := TagCondition.matchesWeak_parse? (Text.not_mem_trim noComma)
    ((EntityTag.parse?_trim t).trans read)
  simp [Conditions.noneMatch, Conditions.ofHeaders, TagCondition.ofHeaders_single sent, parsed,
    holds]

end Validation

namespace Cache

open Http

variable {σ : Type}

/-- A GET answer that is stored as an entry whose tag the recompute rule finds unchanged is
answered with the 304 of that entry. -/
theorem recompute_of_unchanged {h : Handler σ} {st st' : σ} {m m' : Manager} {req : Request}
    {uri : String} {conds : Validation.Conditions} {reason : Revalidation} {resp : Response}
    {n : NewEntry} {e' : Entry} (call : h.call st req = (st', .ok resp))
    (storableMethod : req.method.isStorable = true) (stores : storable uri req.headers resp = some n)
    (added : m.add n = (m', .ok e')) (unchanged : notModifiedAfterRecompute reason e'.etag conds) :
    recompute h st m req uri conds reason = ⟨.ok (notModified e' m'.now), 1, m', st'⟩ := by
  simp [recompute, call, storableMethod, stores, added, unchanged]

/-- A client that sends back in If-None-Match a tag written without a comma, whose value is the
tag of the variant the lookup chooses, gets a 304 without the handler while the variant is fresh
and If-Match does not fail; after the variant expired, a GET gets a 304 from the recomputed
answer when the handler's answer is stored with a tag of the same value. -/
theorem returned_tag_not_modified (h : Handler σ) (st : σ) {m : Manager} {req : Request}
    {t : String} {tag : Validation.EntityTag} {e : Entry} (noComma : ',' ∉ t.toList)
    (read : Validation.EntityTag.parse? t = some tag)
    (sent : req.headers.texts HeaderName.ifNoneMatch = [t])
    (cacheable : req.method.isCacheable = true) (found : lookup m req = some e)
    (tagged : e.etag = tag.value) :
    (e.isExpired m.now = false →
      (Validation.Conditions.ofHeaders req.headers).matchFails e.etag = false →
        (handle true h st m req).handlerCalls = 0 ∧
          (handle true h st m req).reply = .ok (notModified e m.now)) ∧
    (e.isExpired m.now = true → req.method = .get →
      ∀ resp n, (h.call st req).2 = .ok resp → StoresAs req.uri.cacheKey req.headers resp n →
        n.etag = tag.value →
          (handle true h st m req).handlerCalls = 1 ∧
            (handle true h st m req).reply =
              .ok (notModified (n.entryAt m.now m.nextSequence) (m.add n).1.now)) := by
  have held := Validation.Conditions.noneMatch_of_sent noComma read sent
  rw [← tagged] at held
  have safe := Method.isSafe_of_isCacheable cacheable
  rw [handle_true_eq, if_neg (by simp [Method.invalidates, safe]), if_neg (by simp [cacheable])]
  constructor
  · intro fresh passes
    have outcome : lookupOutcome m req = .notModified e :=
      evaluate_eq_notModified_iff.mpr ⟨found, fresh, passes, held⟩
    rw [outcome]
    exact ⟨rfl, rfl⟩
  · intro expired get resp n answered storesAs sameValue
    have outcome : lookupOutcome m req = .delegate (.expired e.etag) := by
      rw [lookupOutcome, found, evaluate, if_pos expired]
    obtain ⟨s, memory⟩ : ∃ s, m.backend = .memory s := by
      cases backend : m.backend with
      | memory s => exact ⟨s, rfl⟩
      | failing errors =>
          rw [lookup_of_failing m req backend] at found
          cases found
    have unchanged : notModifiedAfterRecompute (.expired e.etag)
        (n.entryAt m.now m.nextSequence).etag (Validation.Conditions.ofHeaders req.headers) := by
      have sameTag : (n.entryAt m.now m.nextSequence).etag = e.etag := sameValue.trans tagged.symm
      simp [notModifiedAfterRecompute, sameTag, held]
    rcases call : h.call st req with ⟨st', r⟩
    rw [call] at answered
    subst answered
    rw [outcome]
    dsimp only
    rw [recompute_of_unchanged call (by simp [get, Method.isStorable])
      (storable_eq_some_iff.mpr storesAs) (Manager.add_of_memory memory n) unchanged,
      Manager.add_of_memory memory n]
    exact ⟨rfl, rfl⟩

end Cache
end ResponseCache
