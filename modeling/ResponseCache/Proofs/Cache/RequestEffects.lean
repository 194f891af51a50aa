import ResponseCache.Cache.Pipeline
/-!
# What one request does to the cache

An enabled pipeline runs its handler at most once for a request, and not at all exactly when
it answers from a stored variant: a 200 from a fresh variant, or a 304 for a variant whose tag
the client holds. When the handler runs, its error is the pipeline's error and the cache stays
as it was; otherwise the handler's answer settles the cache by three rules (`Settled`): a 2xx
answer to an unsafe method drops every variant of the resource, a GET answer that may be stored
(`StoresAs`) is added as one new entry, and any other answer leaves the cache alone.

A method is unsafe when the HTTP method table does not call it safe. That table counts QUERY
among the safe methods, with GET, HEAD, OPTIONS and TRACE, so a QUERY never drops a variant.
-/

namespace ResponseCache
namespace Cache

open Http

/-! ## Storable answers -/

/-- One line of a response's Vary, read into the names collected so far. -/
def varyStep (acc : Option (List HeaderName)) (v : String) : Option (List HeaderName) :=
  acc.bind fun names =>
    if v == "*" then none
    else match HeaderName.ofText? (Text.lower v) with
      | some n => if names.contains n then some names else some (names ++ [n])
      | none => some names

theorem varyNames_eq_foldl (hs : Headers) :
    varyNames hs = (headerValues hs HeaderName.vary).foldl varyStep (some []) := rfl

theorem varyStep_eq_none_iff {acc : Option (List HeaderName)} {v : String} :
    varyStep acc v = none ↔ acc = none ∨ v = "*" := by
  cases acc with
  | none => simp [varyStep]
  | some names =>
      by_cases star : v = "*"
      · simp [varyStep, star]
      · simp only [varyStep, Option.bind_some, beq_iff_eq, star, if_false, reduceCtorEq,
          false_or]
        split <;> (try split) <;> simp

theorem foldl_varyStep_eq_none_iff (vs : List String) (acc : Option (List HeaderName)) :
    vs.foldl varyStep acc = none ↔ acc = none ∨ "*" ∈ vs := by
  induction vs generalizing acc with
  | nil => simp
  | cons v vs ih =>
      rw [List.foldl_cons, ih, varyStep_eq_none_iff, List.mem_cons, @eq_comm _ "*" v]
      exact or_assoc

theorem varyNames_eq_none_iff (hs : Headers) :
    varyNames hs = none ↔ "*" ∈ headerValues hs HeaderName.vary := by
  rw [varyNames_eq_foldl, foldl_varyStep_eq_none_iff]
  simp

/-- A handler's answer that the cache stores for a request with headers `hs`, as the entry `n`:
status 200, a Cache-Control that reads, gives a max-age and says neither no-store nor no-cache,
a first ETag line that reads, and Vary names without `*`. The entry records the resource key,
the media type of Content-Type, the max-age, the tag's value and the request's values for the
Vary names. -/
def StoresAs (uri : String) (hs : Headers) (r : Response) (n : NewEntry) : Prop :=
  r.status = 200 ∧ ∃ d ttl tag names,
    Freshness.Directives.ofHeaders r.headers = some d ∧ d.noStore = false ∧ d.noCache = false ∧
    d.maxAge = some ttl ∧ Validation.EntityTag.ofHeaders r.headers = some tag ∧
    varyNames r.headers = some names ∧
    n = { uri, media := Media.MediaType.ofContentType r.headers,
          directives := { maxAge := some ttl }, headers := r.headers, body := r.body,
          etag := tag.value, vary := VarySnapshot.capture hs names }

theorem storable_eq_some_iff {uri : String} {hs : Headers} {r : Response} {n : NewEntry} :
    storable uri hs r = some n ↔ StoresAs uri hs r n := by
  unfold storable StoresAs
  by_cases ok : r.status = 200
  · simp only [ok, bne_self_eq_false, Bool.false_eq_true, if_false, Option.bind_eq_bind,
      Option.bind_eq_some_iff, Freshness.Directives.storableTtl, Option.ite_none_left_eq_some,
      Option.pure_def, Option.some.injEq, Bool.or_eq_true, not_or, Bool.not_eq_true, true_and]
    constructor
    · rintro ⟨d, read, ttl, ⟨⟨noStore, noCache⟩, maxAge⟩, tag, tagged, names, varied, rfl⟩
      exact ⟨d, ttl, tag, names, read, noStore, noCache, maxAge, tagged, varied, rfl⟩
    · rintro ⟨d, ttl, tag, names, read, noStore, noCache, maxAge, tagged, varied, rfl⟩
      exact ⟨d, read, ttl, ⟨⟨noStore, noCache⟩, maxAge⟩, tag, tagged, names, varied, rfl⟩
  · simp [ok]

/-! ## The decision before the handler -/

theorem evaluate_eq_cached_iff {entry : Option Entry} {conds : Validation.Conditions} {now : Nat}
    {e : Entry} :
    evaluate entry conds now = .cached e ↔ entry = some e ∧ e.isExpired now = false ∧
      conds.matchFails e.etag = false ∧ conds.noneMatch e.etag = false := by
  cases entry with
  | none => simp [evaluate]
  | some stored =>
      cases expired : stored.isExpired now <;> cases fails : conds.matchFails stored.etag <;>
        cases held : conds.noneMatch stored.etag <;> simp [evaluate, expired, fails, held] <;>
        rintro rfl <;> simp_all

theorem evaluate_eq_notModified_iff {entry : Option Entry} {conds : Validation.Conditions}
    {now : Nat} {e : Entry} :
    evaluate entry conds now = .notModified e ↔ entry = some e ∧ e.isExpired now = false ∧
      conds.matchFails e.etag = false ∧ conds.noneMatch e.etag = true := by
  cases entry with
  | none => simp [evaluate]
  | some stored =>
      cases expired : stored.isExpired now <;> cases fails : conds.matchFails stored.etag <;>
        cases held : conds.noneMatch stored.etag <;> simp [evaluate, expired, fails, held] <;>
        rintro rfl <;> simp_all

/-- The variant a request's lookup picks; a backend error counts as a miss. -/
def lookup (m : Manager) (req : Request) : Option Entry :=
  match m.get req.uri.cacheKey (Media.Accept.ofHeaders req.headers) req.headers with
  | .ok e => e
  | .error _ => none

/-- How a GET or HEAD request is decided before any handler runs. -/
def lookupOutcome (m : Manager) (req : Request) : Outcome :=
  evaluate (lookup m req) (Validation.Conditions.ofHeaders req.headers) m.now

theorem handle_true_eq {σ : Type} (h : Handler σ) (st : σ) (m : Manager) (req : Request) :
    handle true h st m req =
      if req.method.invalidates then invalidateAfter h st m req req.uri.cacheKey
      else if !req.method.isCacheable then delegate h st m req
      else match lookupOutcome m req with
        | .notModified e => ⟨.ok (notModified e m.now), 0, m, st⟩
        | .cached e => ⟨.ok (fromCache e m.now (req.method == .head)), 0, m, st⟩
        | .delegate reason => recompute h st m req req.uri.cacheKey
            (Validation.Conditions.ofHeaders req.headers) reason := rfl

/-! ## The effects of one request -/

/-- The cache answered a request by itself: a GET or HEAD whose lookup decided on a 200 from a
fresh variant, or on a 304 for a variant whose tag the client holds, answered with that
response. -/
def AnsweredFromCache (m : Manager) (req : Request) (reply : Except String Response) : Prop :=
  req.method.isCacheable = true ∧ ∃ e,
    lookupOutcome m req = .cached e ∧ reply = .ok (fromCache e m.now (req.method == .head)) ∨
    lookupOutcome m req = .notModified e ∧ reply = .ok (notModified e m.now)

/-- The cache after a handler answered `resp` to `req`: a 2xx answer to an unsafe method drops
every variant of the resource, a GET answer that may be stored is added as one new entry, and
any other answer leaves the cache as it was. -/
inductive Settled (m : Manager) (req : Request) (resp : Response) : Manager → Prop
  | invalidated : req.method.isSafe = false → resp.isSuccess = true →
      Settled m req resp (m.remove req.uri.cacheKey).1
  | stored (n : NewEntry) : req.method = .get → StoresAs req.uri.cacheKey req.headers resp n →
      Settled m req resp (m.add n).1
  | kept : (req.method.isSafe = false → resp.isSuccess = false) →
      (req.method = .get → ∀ n, ¬ StoresAs req.uri.cacheKey req.headers resp n) →
      Settled m req resp m

theorem Settled.unique {m : Manager} {req : Request} {resp : Response} {a b : Manager}
    (first : Settled m req resp a) (second : Settled m req resp b) : a = b := by
  have getSafe : Method.isSafe .get = true := rfl
  cases first with
  | invalidated notSafe success =>
      cases second with
      | invalidated => rfl
      | stored _ get => simp [get, getSafe] at notSafe
      | kept keep => simp [keep notSafe] at success
  | stored n get stores =>
      cases second with
      | invalidated notSafe => simp [get, getSafe] at notSafe
      | stored n' _ stores' =>
          rw [← storable_eq_some_iff] at stores stores'
          rw [Option.some.inj (stores.symm.trans stores')]
      | kept _ nothing => exact absurd stores (nothing get n)
  | kept keep nothing =>
      cases second with
      | invalidated notSafe success => simp [keep notSafe] at success
      | stored n get stores => exact absurd stores (nothing get n)
      | kept => rfl

theorem not_answeredFromCache_of_not_cacheable {m : Manager} {req : Request}
    {reply : Except String Response} (notCacheable : req.method.isCacheable = false) :
    ¬ AnsweredFromCache m req reply := fun ⟨cacheable, _⟩ => by
  rw [notCacheable] at cacheable
  cases cacheable

theorem not_answeredFromCache_of_delegate {m : Manager} {req : Request}
    {reply : Except String Response} {reason : Revalidation}
    (delegated : lookupOutcome m req = .delegate reason) : ¬ AnsweredFromCache m req reply := by
  rintro ⟨-, e, ⟨decided, -⟩ | ⟨decided, -⟩⟩ <;> simp [delegated] at decided

section Paths

variable {σ : Type} (h : Handler σ) (st : σ) (m : Manager) (req : Request)

/-- The cache answered by itself: the handler did not run, and neither its state nor the cache
changed. -/
structure AnsweredItself (x : Exchange σ) : Prop where
  noCall : x.handlerCalls = 0
  state : x.state = st
  cache : x.cache = m
  answer : AnsweredFromCache m req x.reply

/-- The handler ran once on the request. Its error is the reply and leaves the cache alone; its
answer settles the cache by the rules of `Settled`. The reply is none the cache gives by
itself. -/
structure RanHandler (x : Exchange σ) : Prop where
  oneCall : x.handlerCalls = 1
  state : x.state = (h.call st req).1
  failed : ∀ msg, (h.call st req).2 = .error msg → x.reply = .error msg ∧ x.cache = m
  settled : ∀ resp, (h.call st req).2 = .ok resp → Settled m req resp x.cache
  notAnswered : ¬ AnsweredFromCache m req x.reply

variable {h st m req}

theorem RanHandler.of_error {x : Exchange σ} {st' : σ} {msg : String}
    (call : h.call st req = (st', .error msg)) (ran : x = ⟨.error msg, 1, m, st'⟩)
    (notAnswered : ¬ AnsweredFromCache m req (.error msg)) : RanHandler h st m req x := by
  subst ran
  refine ⟨rfl, by rw [call], fun other failed => ?_, fun resp answered => ?_, notAnswered⟩
  · rw [call, Except.error.injEq] at failed
    exact ⟨by rw [failed], rfl⟩
  · rw [call] at answered
    cases answered

theorem RanHandler.of_ok {x : Exchange σ} {st' : σ} {resp : Response}
    (call : h.call st req = (st', .ok resp)) (oneCall : x.handlerCalls = 1) (state : x.state = st')
    (settled : Settled m req resp x.cache) (notAnswered : ¬ AnsweredFromCache m req x.reply) :
    RanHandler h st m req x := by
  refine ⟨oneCall, by rw [call, state], fun msg failed => ?_, fun other answered => ?_, notAnswered⟩
  · rw [call] at failed
    cases failed
  · rw [call, Except.ok.injEq] at answered
    rwa [← answered]

theorem ranHandler_invalidateAfter (notSafe : req.method.isSafe = false) :
    RanHandler h st m req (invalidateAfter h st m req req.uri.cacheKey) := by
  have notCacheable : req.method.isCacheable = false := by
    cases cacheable : req.method.isCacheable
    · rfl
    · simp [Method.isSafe_of_isCacheable cacheable] at notSafe
  have notGet : req.method ≠ .get := fun get => by simp [get, Method.isSafe] at notSafe
  rcases call : h.call st req with ⟨st', _ | resp⟩
  · exact .of_error call (by simp [invalidateAfter, call])
      (not_answeredFromCache_of_not_cacheable notCacheable)
  · cases success : resp.isSuccess
    · have ran : invalidateAfter h st m req req.uri.cacheKey = ⟨.ok resp, 1, m, st'⟩ := by
        simp [invalidateAfter, call, success]
      rw [ran]
      exact .of_ok call rfl rfl (.kept (fun _ => success) (fun get => absurd get notGet))
        (not_answeredFromCache_of_not_cacheable notCacheable)
    · have ran : invalidateAfter h st m req req.uri.cacheKey =
          ⟨.ok resp, 1, (m.remove req.uri.cacheKey).1, st'⟩ := by
        simp [invalidateAfter, call, success]
      rw [ran]
      exact .of_ok call rfl rfl (.invalidated notSafe success)
        (not_answeredFromCache_of_not_cacheable notCacheable)

theorem ranHandler_delegate (safe : req.method.isSafe = true)
    (notCacheable : req.method.isCacheable = false) :
    RanHandler h st m req (delegate h st m req) := by
  have notGet : req.method ≠ .get := fun get => by simp [get, Method.isCacheable] at notCacheable
  rcases call : h.call st req with ⟨st', _ | resp⟩
  · exact .of_error call (by simp [delegate, call])
      (not_answeredFromCache_of_not_cacheable notCacheable)
  · refine .of_ok call (by simp [delegate, call]) (by simp [delegate, call]) ?_
      (not_answeredFromCache_of_not_cacheable notCacheable)
    simp only [delegate, call]
    exact .kept (fun notSafe => by simp [safe] at notSafe) (fun get => absurd get notGet)

theorem method_eq_get_of_isStorable {meth : Method} (storableMethod : meth.isStorable = true) :
    meth = .get := by
  cases meth <;> simp_all [Method.isStorable]

section Recompute

variable {uri : String} {conds : Validation.Conditions} {reason : Revalidation} {st' : σ}

theorem recompute_of_error {msg : String} (call : h.call st req = (st', .error msg)) :
    recompute h st m req uri conds reason = ⟨.error msg, 1, m, st'⟩ := by
  simp [recompute, call]

theorem recompute_of_not_stored {resp : Response} (call : h.call st req = (st', .ok resp))
    (notStored : req.method.isStorable = false ∨ storable uri req.headers resp = none) :
    recompute h st m req uri conds reason = ⟨.ok resp, 1, m, st'⟩ := by
  rcases notStored with notGet | nothing <;> simp [recompute, *]

/-- A GET answer that may be stored is added as a new entry. The reply is the handler's answer,
or a 304 when the answer brought back the tag of the expired variant it replaces and the client
holds that tag. -/
theorem recompute_of_stores (m : Manager) (conds : Validation.Conditions) (reason : Revalidation)
    {resp : Response} {n : NewEntry}
    (call : h.call st req = (st', .ok resp)) (storableMethod : req.method.isStorable = true)
    (stores : storable uri req.headers resp = some n) :
    let x := recompute h st m req uri conds reason
    x.handlerCalls = 1 ∧ x.state = st' ∧ x.cache = (m.add n).1 ∧
      (x.reply = .ok resp ∨ ∃ e, (m.add n).2 = .ok e ∧
        notModifiedAfterRecompute reason e.etag conds = true ∧
        x.reply = .ok (notModified e (m.add n).1.now)) := by
  simp only [recompute, call, storableMethod, stores, Bool.not_true, Bool.false_eq_true, if_false]
  rcases added : m.add n with ⟨m', _ | e⟩
  · simp
  · by_cases same : notModifiedAfterRecompute reason e.etag conds <;> simp [same]

end Recompute

theorem ranHandler_recompute {reason : Revalidation} (cacheable : req.method.isCacheable = true)
    (delegated : lookupOutcome m req = .delegate reason) :
    RanHandler h st m req
      (recompute h st m req req.uri.cacheKey (Validation.Conditions.ofHeaders req.headers)
        reason) := by
  have safe := Method.isSafe_of_isCacheable cacheable
  have keptSafe : req.method.isSafe = false → ∀ resp : Response, resp.isSuccess = false :=
    fun notSafe => by simp [safe] at notSafe
  rcases call : h.call st req with ⟨st', msg | resp⟩
  · exact .of_error call (recompute_of_error call) (not_answeredFromCache_of_delegate delegated)
  · cases stores : storable req.uri.cacheKey req.headers resp with
    | none =>
        rw [recompute_of_not_stored call (.inr stores)]
        refine .of_ok call rfl rfl (.kept (fun notSafe => keptSafe notSafe resp) ?_)
          (not_answeredFromCache_of_delegate delegated)
        intro _ n storesAs
        rw [← storable_eq_some_iff, stores] at storesAs
        cases storesAs
    | some n =>
        cases storableMethod : req.method.isStorable
        · rw [recompute_of_not_stored call (.inl storableMethod)]
          refine .of_ok call rfl rfl (.kept (fun notSafe => keptSafe notSafe resp) ?_)
            (not_answeredFromCache_of_delegate delegated)
          intro get
          simp [get, Method.isStorable] at storableMethod
        · obtain ⟨oneCall, state, cache, -⟩ := recompute_of_stores m
            (Validation.Conditions.ofHeaders req.headers) reason call storableMethod stores
          refine .of_ok call oneCall state ?_ (not_answeredFromCache_of_delegate delegated)
          rw [cache]
          exact .stored n (method_eq_get_of_isStorable storableMethod)
            (storable_eq_some_iff.mp stores)

end Paths

/-- A request to an enabled pipeline is either answered by the cache alone, with neither the
handler's state nor the cache changed, or runs the handler exactly once, with the effects its
answer settles. -/
theorem handle_answers_or_runs_handler {σ : Type} (h : Handler σ) (st : σ) (m : Manager)
    (req : Request) :
    AnsweredItself st m req (handle true h st m req) ∨
      RanHandler h st m req (handle true h st m req) := by
  rw [handle_true_eq]
  cases safe : req.method.isSafe
  · right
    rw [if_pos (by simp [Method.invalidates, safe])]
    exact ranHandler_invalidateAfter safe
  · rw [if_neg (by simp [Method.invalidates, safe])]
    cases cacheable : req.method.isCacheable
    · right
      rw [if_pos (by simp)]
      exact ranHandler_delegate safe cacheable
    · rw [if_neg (by simp)]
      cases outcome : lookupOutcome m req with
      | notModified e =>
          left
          exact ⟨rfl, rfl, rfl, cacheable, e, .inr ⟨outcome, rfl⟩⟩
      | cached e =>
          left
          exact ⟨rfl, rfl, rfl, cacheable, e, .inl ⟨outcome, rfl⟩⟩
      | delegate reason =>
          right
          exact ranHandler_recompute cacheable outcome

/-- A QUERY is none of GET, HEAD, OPTIONS and TRACE, yet it is safe: a successful QUERY leaves
the stored variant of its resource in place. -/
theorem query_success_keeps_variants :
    let stored : NewEntry :=
      ⟨"/", Media.MediaType.octetStream, { maxAge := some 60 }, {}, [], "v1", {}⟩
    let m := (({ backend := .memory {} } : Manager).add stored).1
    let req : Request := { method := .query, uri := ⟨true, [120], [], none⟩ }
    let handler : Handler Unit := ⟨fun st _ => (st, .ok ⟨200, {}, []⟩)⟩
    req.method ∉ [Method.get, .head, .options, .trace] ∧
      (handler.call () req).2 = .ok ⟨200, {}, []⟩ ∧ Response.isSuccess ⟨200, {}, []⟩ = true ∧
      (handle true handler () m req).cache ≠ (m.remove req.uri.cacheKey).1 := by
  intro stored m req handler
  exact ⟨by decide, rfl, rfl, by decide⟩

end Cache
end ResponseCache
