import ResponseCache.Proofs.Cache.Preconditions
/-!
# Failing open

The cache stands aside whenever it has nothing to serve. A disabled pipeline, and an enabled one
over a backend that fails every call, run the handler once on the request and return what it
returned, answer or error (`handle_fails_open`). A failed lookup counts as a miss, a failed add
leaves the handler's answer as the reply, and a failed removal is only logged, whatever error
each call fails with.

The argument is the one for every cache: a method the cache does not answer goes straight to the
handler, and so does a GET or HEAD whose lookup decides on the handler for a reason other than an
expired variant (`passedThrough_of_delegate`), since only the expired path can turn the handler's
answer into a 304.
-/

namespace ResponseCache
namespace Cache

open Http

variable {σ : Type}

/-- The handler ran once on the request, from state `st`, and what it returned is the reply. -/
structure PassedThrough (h : Handler σ) (st : σ) (req : Request) (x : Exchange σ) : Prop where
  oneCall : x.handlerCalls = 1
  state : x.state = (h.call st req).1
  reply : x.reply = (h.call st req).2

/-- Two exchanges that both passed the request through give the same reply after as many
handler calls. -/
theorem PassedThrough.agree {h : Handler σ} {st : σ} {req : Request} {x y : Exchange σ}
    (first : PassedThrough h st req x) (second : PassedThrough h st req y) :
    x.reply = y.reply ∧ x.handlerCalls = y.handlerCalls :=
  ⟨first.reply.trans second.reply.symm, first.oneCall.trans second.oneCall.symm⟩

section Paths

variable (h : Handler σ) (st : σ) (m : Manager) (req : Request)

theorem passedThrough_delegate : PassedThrough h st req (delegate h st m req) := ⟨rfl, rfl, rfl⟩

theorem passedThrough_invalidateAfter (uri : String) :
    PassedThrough h st req (invalidateAfter h st m req uri) := by
  rcases call : h.call st req with ⟨st', _ | resp⟩
  · simp only [invalidateAfter, call]
    exact ⟨rfl, by rw [call], by rw [call]⟩
  · simp only [invalidateAfter, call]
    split <;> exact ⟨rfl, by rw [call], by rw [call]⟩

theorem lookup_of_failing {errors : Failures} (failing : m.backend = .failing errors) :
    lookup m req = none := by
  simp [lookup, Manager.get, failing]

/-- A request passes through an enabled pipeline when its method is not one the cache answers,
or when its lookup decides on the handler for a reason other than an expired variant. -/
theorem passedThrough_of_delegate {reason : Revalidation}
    (delegated : lookupOutcome m req = .delegate reason)
    (notExpired : ∀ previous, reason ≠ .expired previous) :
    PassedThrough h st req (handle true h st m req) := by
  rw [handle_true_eq]
  by_cases invalidating : req.method.invalidates = true
  · rw [if_pos invalidating]
    exact passedThrough_invalidateAfter h st m req _
  · rw [if_neg invalidating]
    cases cacheable : req.method.isCacheable
    · exact passedThrough_delegate h st m req
    · rw [if_neg (by simp), delegated]
      have ran : RanHandler h st m req _ := ranHandler_recompute cacheable delegated
      exact ⟨ran.oneCall, ran.state, recompute_reply_of_not_expired h st m req _ _ notExpired⟩

end Paths

/-- The cache fails open: a disabled pipeline, and an enabled one over a backend that fails every
call with any errors, run the handler exactly once on every request and return what it returned,
the same answer or the same error. -/
theorem handle_fails_open (h : Handler σ) (st : σ) (req : Request) :
    (∀ m : Manager, PassedThrough h st req (handle false h st m req)) ∧
      ∀ (m : Manager) (errors : Failures), m.backend = .failing errors →
        PassedThrough h st req (handle true h st m req) := by
  refine ⟨fun m => passedThrough_delegate h st m req, fun m errors failing => ?_⟩
  have miss : lookupOutcome m req = .delegate .miss := by
    rw [lookupOutcome, lookup_of_failing m req failing]
    rfl
  exact passedThrough_of_delegate h st m req miss fun previous => by simp

/-- A GET whose answer may be stored, to a pipeline over a backend that is down for lookups and
adds and refuses removals, gets the handler's answer as it is; so does the same GET to a disabled
pipeline. -/
theorem failing_store_returns_handler_answer :
    let text (s : String) : HeaderValue := ⟨s.toList.map fun c => c.toNat.toUInt8⟩
    let answer : Response :=
      ⟨200, ⟨[(HeaderName.cacheControl, text "max-age=60"), (HeaderName.etag, text "\"v1\"")]⟩,
        [120]⟩
    let handler : Handler Unit := ⟨fun st _ => (st, .ok answer)⟩
    let req : Request := { method := .get, uri := ⟨true, [120], [], none⟩ }
    let errors : Failures := ⟨.unavailable "down", .unavailable "down", .rejected "read-only",
      .rejected "read-only", .unavailable "down", .unavailable "down"⟩
    let m : Manager := { backend := .failing errors }
    m.backend = .failing errors ∧
      PassedThrough handler () req (handle false handler () m req) ∧
      PassedThrough handler () req (handle true handler () m req) ∧
      (handler.call () req).2 = .ok answer := by
  intro text answer handler req errors m
  exact ⟨rfl, (handle_fails_open handler () req).1 m,
    (handle_fails_open handler () req).2 m errors rfl, rfl⟩

end Cache
end ResponseCache
