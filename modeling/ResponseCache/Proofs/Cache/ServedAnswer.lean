import ResponseCache.Proofs.Cache.CapturedView
import ResponseCache.Proofs.Cache.RepeatedRequest
import ResponseCache.Proofs.Freshness.MaxAgeRewrite
/-!
# Answers served from an entry

An entry the pipeline stores keeps the response's header lines, its body, the value of its tag
and the max-age it was stored for. Served at a later time, as a 200 or as a 304, its answers
describe it (`DescribesEntry`): the 200 carries the body, or none for HEAD, and one
Content-Length giving the body's length; the 304 carries no body and only Cache-Control, ETag and
Vary lines; and both read back, as Cache-Control, a max-age of the seconds the entry has left and
neither no-store nor no-cache, and as ETag the entry's tag (`describesEntry_of_stored`).

The max-age comes through the rewrite of every stored Cache-Control line
(`ofLines_map_rewriteMaxAge`), and the tag because the first ETag line is replayed as it was. Both
rest on the law of replay (`getAll_renderFiltered_capture`).
-/

namespace ResponseCache

namespace Http

namespace Headers

theorem getAll_insert_of_ne (hs : Headers) {name other : HeaderName} (value : HeaderValue)
    (differ : name ≠ other) : (hs.insert name value).getAll other = hs.getAll other := by
  rw [insert, getAll_append, if_neg differ, List.append_nil]
  simp only [erase, getAll, List.filter_filter]
  congr 1
  apply List.filter_congr
  intro f _
  by_cases same : f.1 = other
  · simp [same, Ne.symm differ]
  · simp [same]

theorem contains_of_mem_getAll {hs : Headers} {name : HeaderName} {v : HeaderValue}
    (member : v ∈ hs.getAll name) : hs.contains name = true := by
  obtain ⟨f, kept, -⟩ := List.mem_map.mp member
  exact List.any_eq_true.mpr ⟨f, (List.mem_filter.mp kept).1, (List.mem_filter.mp kept).2⟩

end Headers

/-- A decimal numeral reads as text. -/
theorem isValueText_repr (n : Nat) : IsValueText (Nat.repr n) := by
  intro c member
  have digit := Text.toNat_of_isDigit (Text.isDigit_of_mem_repr member)
  exact .inr ⟨by omega, by omega⟩

end Http

namespace Validation

theorem EntityTag.contains_of_ofHeaders {hs : Http.Headers} {tag : EntityTag}
    (read : ofHeaders hs = some tag) : hs.contains Http.HeaderName.etag = true := by
  unfold ofHeaders Http.Headers.get? at read
  cases first : (hs.getAll Http.HeaderName.etag).head? with
  | none =>
      rw [first] at read
      cases read
  | some v => exact Http.Headers.contains_of_mem_getAll (List.mem_of_head? first)

/-- The tag is read off the ETag lines alone. -/
theorem EntityTag.ofHeaders_congr {hs hs' : Http.Headers}
    (same : hs.getAll Http.HeaderName.etag = hs'.getAll Http.HeaderName.etag) :
    ofHeaders hs = ofHeaders hs' := by
  unfold ofHeaders Http.Headers.get?
  rw [same]

end Validation

namespace Freshness

/-- The directives are read off the Cache-Control lines alone. -/
theorem Directives.ofHeaders_congr {hs hs' : Http.Headers}
    (same : hs.getAll Http.HeaderName.cacheControl = hs'.getAll Http.HeaderName.cacheControl) :
    ofHeaders hs = ofHeaders hs' := by
  unfold ofHeaders Http.Headers.texts
  rw [same]

end Freshness

namespace Cache

open Http

theorem Manager.add_eq_ok {m : Manager} {n : NewEntry} {e : Entry} (added : (m.add n).2 = .ok e) :
    e = n.entryAt m.now m.nextSequence := by
  cases backend : m.backend with
  | memory s =>
      rw [Manager.add_of_memory backend] at added
      exact (Except.ok.inj added).symm
  | failing errors => simp [Manager.add, backend] at added

/-- A saturating sum is a 64-bit word. -/
theorem addSat_lt_wordBound (a b : Nat) : addSat a b < Text.wordBound := by
  have capped : addSat a b ≤ Text.wordMax := Nat.min_le_right _ _
  have positive : 0 < Text.wordBound := by decide
  unfold Text.wordMax at capped
  omega

/-- Off Content-Length, the 200 carries the replayed lines with the tag ensured. -/
theorem getAll_fromCache_of_ne (e : Entry) (now : Nat) (head : Bool) {name : HeaderName}
    (differ : name ≠ HeaderName.contentLength) :
    (fromCache e now head).headers.getAll name =
      (ensureEtag (e.headers.render (e.remaining now)) e).getAll name := by
  rw [fromCache, Headers.getAll_insert_of_ne _ _ (Ne.symm differ)]

theorem ensureEtag_of_contains {hs : Headers} (tagged : hs.contains HeaderName.etag = true)
    (e : Entry) : ensureEtag hs e = hs := by
  rw [ensureEtag, if_pos tagged]

/-- A role a 304 keeps belongs to Cache-Control, ETag or Vary. -/
theorem eq_of_isValidator_classify {name : HeaderName}
    (kept : (HeaderKind.classify name).isValidator name.text = true) :
    name.text = "cache-control" ∨ name.text = "etag" ∨ name.text = "vary" := by
  unfold HeaderKind.classify at kept
  split at kept
  · rename_i cacheControl
    exact .inl (by simpa using cacheControl)
  · split at kept
    · simp [HeaderKind.isValidator] at kept
    · split at kept
      · rename_i tag
        exact .inr (.inl (by simpa using tag))
      · split at kept
        · simp [HeaderKind.isValidator] at kept
        · exact .inr (.inr (by simpa [HeaderKind.isValidator] using kept))

/-- A 304 replays only Cache-Control, ETag and Vary lines. -/
theorem name_of_mem_renderValidators {hs : Headers} {remaining : Nat}
    {f : HeaderName × HeaderValue}
    (member : f ∈ ((CapturedHeaders.capture hs).renderValidators remaining).fields) :
    f.1 = HeaderName.cacheControl ∨ f.1 = HeaderName.etag ∨ f.1 = HeaderName.vary := by
  obtain ⟨g, listed, read, line, inside, kept⟩ :=
    CapturedHeaders.mem_renderFiltered remaining _ member
  obtain ⟨field, -, spelled⟩ := CapturedHeaders.key_of_mem_capture listed
  have named : field.1 = f.1 := by
    rw [← spelled, HeaderName.ofText?_text] at read
    exact Option.some.inj read
  rw [CapturedHeaders.kind_of_mem_capture listed inside spelled, ← spelled, named] at kept
  rcases eq_of_isValidator_classify kept with text | text | text
  · exact .inl (HeaderName.ext text)
  · exact .inr (.inl (HeaderName.ext text))
  · exact .inr (.inr (HeaderName.ext text))

/-! ## Replaying a stored response

For a stored response, replayed with its Cache-Control and ETag lines kept, as both a 200 and a
304 do. -/

section Replay

variable {hs : Headers} (remaining : Nat) {keep : String → HeaderKind → Bool}

theorem texts_cacheControl_renderFiltered (keepCache : keep "cache-control" .cacheControl = true) :
    ((CapturedHeaders.capture hs).renderFiltered remaining keep).texts HeaderName.cacheControl =
      (hs.texts HeaderName.cacheControl).map (Freshness.rewriteMaxAge · remaining) := by
  have role : HeaderKind.classify HeaderName.cacheControl = .cacheControl := by decide
  have kept : hopByHop.contains HeaderName.cacheControl.text = false := by decide
  rw [CapturedHeaders.texts_renderFiltered_capture remaining keep kept (by rw [role]; exact keepCache)
    (by rw [role]; exact fun t member =>
      Freshness.isValueText_rewriteMaxAge (isValueText_of_mem_texts member) remaining), role]
  rfl

/-- The replayed Cache-Control reads as the stored one, with the seconds left as its max-age. -/
theorem ofHeaders_renderFiltered {d : Freshness.Directives} {ttl : Nat}
    (read : Freshness.Directives.ofHeaders hs = some d) (store : d.noStore = false)
    (cache : d.noCache = false) (age : d.maxAge = some ttl) (small : remaining < Text.wordBound)
    (keepCache : keep "cache-control" .cacheControl = true) :
    Freshness.Directives.ofHeaders ((CapturedHeaders.capture hs).renderFiltered remaining keep) =
      some ⟨some remaining, false, false⟩ := by
  rw [Freshness.Directives.ofHeaders, texts_cacheControl_renderFiltered remaining keepCache]
  obtain ⟨d', reread, follows⟩ := Freshness.Directives.ofLines_map_rewriteMaxAge read small
  rw [reread]
  have age' := follows.maxAge ttl age
  have store' := follows.noStore.trans store
  have cache' := follows.noCache.trans cache
  cases d'
  simp only at age' store' cache'
  rw [age', store', cache']

/-- The replayed ETag lines are the stored ones. -/
theorem getAll_etag_renderFiltered (keepTag : keep "etag" .entityTag = true) :
    ((CapturedHeaders.capture hs).renderFiltered remaining keep).getAll HeaderName.etag =
      (hs.texts HeaderName.etag).map HeaderValue.ofText := by
  have role : HeaderKind.classify HeaderName.etag = .entityTag := by decide
  have kept : hopByHop.contains HeaderName.etag.text = false := by decide
  rw [CapturedHeaders.getAll_renderFiltered_capture_of_text remaining keep kept
    (by rw [role]; exact keepTag) (by rw [role]; exact fun t member => isValueText_of_mem_texts member),
    role]
  rfl

/-- The replayed headers read as the stored tag. -/
theorem entityTag_renderFiltered {tag : Validation.EntityTag}
    (read : Validation.EntityTag.ofHeaders hs = some tag) (keepTag : keep "etag" .entityTag = true) :
    Validation.EntityTag.ofHeaders ((CapturedHeaders.capture hs).renderFiltered remaining keep) =
      some tag := by
  unfold Validation.EntityTag.ofHeaders Headers.get? at read ⊢
  rw [getAll_etag_renderFiltered remaining keepTag]
  cases values : hs.getAll HeaderName.etag with
  | nil =>
      rw [values] at read
      cases read
  | cons v rest =>
      rw [values, List.head?_cons, Option.bind_some, Validation.EntityTag.ofLine] at read
      cases text : v.text? with
      | none =>
          rw [text] at read
          cases read
      | some t =>
          rw [text, Option.bind_some] at read
          have first : hs.texts HeaderName.etag = t :: rest.filterMap HeaderValue.text? := by
            rw [Headers.texts, values, List.filterMap_cons, text]
          rw [first, List.map_cons, List.head?_cons, Option.bind_some, Validation.EntityTag.ofLine,
            HeaderValue.text?_ofText (isValueText_of_text? text), Option.bind_some, read]

end Replay

/-! ## What the answers say -/

/-- What the answers served from an entry `e` at `now` say of it, for an entry stored at
`storedAt`. The 200 has the entry's body, or none for HEAD, and one Content-Length, the body's
length; the 304 has no body and only Cache-Control, ETag and Vary lines; both read as
Cache-Control directives with the seconds left as max-age and neither no-store nor no-cache, and
as the entry's tag; and the seconds left never exceed the max-age once the entry exists. -/
structure DescribesEntry (e : Entry) (storedAt now : Nat) (head : Bool) : Prop where
  servedStatus : (fromCache e now head).status = 200
  servedBody : (fromCache e now head).body = if head then [] else e.body
  servedLength : ∃ v, (fromCache e now head).headers.getAll HeaderName.contentLength = [v] ∧
    v.text? = some (Nat.repr e.body.length)
  unchangedStatus : (notModified e now).status = 304
  unchangedBody : (notModified e now).body = []
  unchangedNames : ∀ f ∈ (notModified e now).headers.fields,
    f.1 = HeaderName.cacheControl ∨ f.1 = HeaderName.etag ∨ f.1 = HeaderName.vary
  directives : ∀ answer ∈ [fromCache e now head, notModified e now],
    Freshness.Directives.ofHeaders answer.headers = some ⟨some (e.expiresAt - now), false, false⟩
  tag : ∀ answer ∈ [fromCache e now head, notModified e now],
    (Validation.EntityTag.ofHeaders answer.headers).map (·.value) = some e.etag
  bounded : storedAt ≤ now → e.expiresAt - now ≤ e.maxAge

/-- An entry the pipeline stores for a response is described faithfully by every answer served
from it, at every time and for GET and HEAD alike. -/
theorem describesEntry_of_stored {m : Manager} {uri : String} {hs : Headers} {r : Response}
    {n : NewEntry} {e : Entry} (stores : storable uri hs r = some n) (added : (m.add n).2 = .ok e) (now : Nat)
    (head : Bool) : DescribesEntry e m.now now head := by
  obtain ⟨-, d, ttl, tag, names, read, store, cache, age, tagged, -, rfl⟩ :=
    storable_eq_some_iff.mp stores
  have entry := Manager.add_eq_ok added
  have stored : e.headers = CapturedHeaders.capture r.headers := by rw [entry]; rfl
  have expires : e.expiresAt = addSat m.now ttl := by rw [entry]; rfl
  have lifetime : e.maxAge = ttl := by rw [entry]; rfl
  have value : e.etag = tag.value := by rw [entry]; rfl
  have small : e.remaining now < Text.wordBound := by
    have below := addSat_lt_wordBound m.now ttl
    rw [← expires] at below
    unfold Entry.remaining
    omega
  have replays : ∀ keep : String → HeaderKind → Bool, keep "cache-control" .cacheControl = true →
      keep "etag" .entityTag = true →
      let replayed := e.headers.renderFiltered (e.remaining now) keep
      ensureEtag replayed e = replayed ∧
        Freshness.Directives.ofHeaders replayed = some ⟨some (e.remaining now), false, false⟩ ∧
        Validation.EntityTag.ofHeaders replayed = some tag := by
    intro keep keepCache keepTag
    rw [stored]
    have reread := entityTag_renderFiltered (e.remaining now) tagged keepTag
    exact ⟨ensureEtag_of_contains (Validation.EntityTag.contains_of_ofHeaders reread) e,
      ofHeaders_renderFiltered (e.remaining now) read store cache age small keepCache, reread⟩
  obtain ⟨servedTagged, servedRead, servedTag⟩ := replays (fun _ _ => true) rfl rfl
  obtain ⟨unchangedTagged, unchangedRead, unchangedTag⟩ :=
    replays (fun name kind => kind.isValidator name) rfl rfl
  have offLength : ∀ other, other ≠ HeaderName.contentLength →
      (fromCache e now head).headers.getAll other =
        (e.headers.render (e.remaining now)).getAll other := by
    intro other differ
    rw [getAll_fromCache_of_ne e now head differ, CapturedHeaders.render, servedTagged]
  refine ⟨rfl, rfl, ⟨_, Headers.getAll_insert_self _ _ _, HeaderValue.text?_ofText (isValueText_repr _)⟩,
    rfl, rfl, ?_, ?_, ?_, ?_⟩
  · intro f member
    rw [notModified, CapturedHeaders.renderValidators, unchangedTagged, stored] at member
    exact name_of_mem_renderValidators member
  · intro answer member
    rcases List.mem_cons.mp member with rfl | later
    · rw [Freshness.Directives.ofHeaders_congr (offLength _ (by decide))]
      exact servedRead
    · rw [List.mem_singleton.mp later, notModified]
      simp only
      rw [CapturedHeaders.renderValidators, unchangedTagged]
      exact unchangedRead
  · intro answer member
    rcases List.mem_cons.mp member with rfl | later
    · rw [Validation.EntityTag.ofHeaders_congr (offLength _ (by decide)), CapturedHeaders.render,
        servedTag, value]
      rfl
    · rw [List.mem_singleton.mp later, notModified]
      simp only
      rw [CapturedHeaders.renderValidators, unchangedTagged, unchangedTag, value]
      rfl
  · intro before
    rw [expires, lifetime, addSat]
    omega

/-- An answer with `max-age=60` and the tag `"v1"`, stored at time 0 on an empty cache: served at
time 30 for HEAD, or as a 304, it says 30 seconds are left and gives the tag back. -/
theorem describesEntry_of_fresh_answer :
    let text (s : String) : HeaderValue := ⟨s.toList.map fun c => c.toNat.toUInt8⟩
    let r : Response := ⟨200,
      ⟨[(HeaderName.cacheControl, text "max-age=60"), (HeaderName.etag, text "\"v1\"")]⟩, [104, 105]⟩
    let n : NewEntry :=
      { uri := "a", media := Media.MediaType.ofContentType r.headers,
        directives := { maxAge := some 60 }, headers := r.headers, body := r.body, etag := "v1",
        vary := VarySnapshot.capture {} [] }
    let m : Manager := { backend := .memory {} }
    storable "a" {} r = some n ∧
      (m.add n).2 = .ok (n.entryAt 0 0) ∧ DescribesEntry (n.entryAt 0 0) m.now 30 true := by
  intro text r n m
  have stores : storable "a" {} r = some n := by simp only [r, n, text]; rfl
  have added : (m.add n).2 = .ok (n.entryAt 0 0) := rfl
  exact ⟨stores, added, describesEntry_of_stored stores added 30 true⟩

end Cache

end ResponseCache
