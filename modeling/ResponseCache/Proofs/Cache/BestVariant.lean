import ResponseCache.Proofs.Cache.SelectionOrder
/-!
# The chosen variant is the best one

A stored variant qualifies for a request when the request's Accept rates it at its highest
quality and its recorded vary values fit the request. Among qualifying variants, ties of quality
are broken by the specificity of the deciding range and then by the sequence number, and a tie
of both goes to the candidate listed first. The lookup chooses exactly that variant, and chooses
none exactly when nothing qualifies (`selectVariant_picks_best`).

The ranking sorts only the variants rated at the top quality, and drops the ones that do not fit
only afterwards, so the argument has two parts: the first fitting variant in the ranking has the
greatest tie key of all qualifying ones (`selectVariant_eq_some`), and the sort is stable, so the
qualifying variants of that key keep the order of the list (`find?_tied_of_selectVariant`).
-/

namespace ResponseCache
namespace Cache

open Http

section Spec

variable (accept : Media.Accept) (hs : Headers)

/-- A candidate the request may be served from: rated by `p` at the top quality of its Accept,
with recorded vary values that fit it. -/
def Qualifies (e : Entry) (p : Media.Preference) : Prop :=
  Rated accept e p ∧ e.vary.mayVary hs = false

/-- Whether a candidate qualifies with the tie key `k`: the specificity of its deciding range and
its sequence number. -/
def qualifiesWith (k : Nat × Nat) (x : Entry) : Bool :=
  !x.vary.mayVary hs && match accept.preference x.media with
    | some q => q.quality == accept.topQuality && (q.specificity, x.sequence) == k
    | none => false

/-- The variant a request should get, rated by `p`: it qualifies, no qualifying candidate has a
greater tie key, and no qualifying candidate of its tie key comes before it in the list. -/
structure IsBest (candidates : List Entry) (e : Entry) (p : Media.Preference) : Prop where
  qualifies : Qualifies accept hs e p
  noneAbove : ∀ x ∈ candidates, ∀ q, Qualifies accept hs x q →
    ¬(p.specificity < q.specificity ∨ p.specificity = q.specificity ∧ e.sequence < x.sequence)
  first : ∃ before after, candidates = before ++ e :: after ∧
    ∀ x ∈ before, ∀ q, Qualifies accept hs x q →
      (q.specificity, x.sequence) ≠ (p.specificity, e.sequence)

end Spec

variable {accept : Media.Accept} {hs : Headers}

theorem Rated.unique {e : Entry} {p q : Media.Preference} (hp : Rated accept e p)
    (hq : Rated accept e q) : p = q :=
  Option.some.inj (hp.1.symm.trans hq.1)

theorem qualifiesWith_iff {k : Nat × Nat} {x : Entry} :
    qualifiesWith accept hs k x = true ↔
      ∃ q, Qualifies accept hs x q ∧ (q.specificity, x.sequence) = k := by
  unfold qualifiesWith Qualifies Rated
  cases preferred : accept.preference x.media with
  | none => simp
  | some q =>
      simp only [Bool.and_eq_true, Bool.not_eq_true', beq_iff_eq, Option.some.injEq]
      constructor
      · rintro ⟨fits, top, key⟩
        exact ⟨q, ⟨⟨rfl, top⟩, fits⟩, key⟩
      · rintro ⟨_, ⟨⟨rfl, top⟩, fits⟩, key⟩
        exact ⟨fits, top, key⟩

/-- Two qualifying ranks that differ in their tie key: the rank of greater tie key is at least
the other. -/
theorem rankGe_iff {p q : Media.Preference} {e x : Entry} (same : p.quality = q.quality) :
    rankGe (rankKey p e) (rankKey q x) = true ↔
      ¬(p.specificity < q.specificity ∨ p.specificity = q.specificity ∧ e.sequence < x.sequence) := by
  rw [rankKey, rankKey]
  simp only [rankGe, Bool.or_eq_true, Bool.and_eq_true, beq_iff_eq, decide_eq_true_eq]
  omega

/-- Among candidates that all qualify with one tie key, the first is chosen: they are ranked
equal, and the sort keeps their order. -/
theorem selectVariant_of_tied {k : Nat × Nat} {l : List Entry}
    (tied : ∀ x ∈ l, qualifiesWith accept hs k x = true) :
    selectVariant l accept hs = l.head? := by
  have rated : ∀ x ∈ l, ∃ q, accept.preference x.media = some q ∧
      q.quality = accept.topQuality ∧ (q.specificity, x.sequence) = k ∧
      x.vary.mayVary hs = false := by
    intro x member
    obtain ⟨q, ⟨⟨preferred, top⟩, fits⟩, key⟩ := qualifiesWith_iff.mp (tied x member)
    exact ⟨q, preferred, top, key, fits⟩
  have eligible : (ranked l accept).map Prod.snd = l := by
    dsimp only [ranked]
    rw [List.mergeSort_of_pairwise ?sorted, List.map_filterMap]
    · refine (List.filterMap_congr fun x member => ?_).trans List.filterMap_some
      obtain ⟨q, preferred, top, -, -⟩ := rated x member
      simp [preferred, top]
    case sorted =>
      apply List.pairwise_of_forall_mem_list
      intro a memberA b memberB
      obtain ⟨x, listedX, hx⟩ := List.mem_filterMap.mp memberA
      obtain ⟨y, listedY, hy⟩ := List.mem_filterMap.mp memberB
      obtain ⟨qx, preferX, topX, keyX, -⟩ := rated x listedX
      obtain ⟨qy, preferY, topY, keyY, -⟩ := rated y listedY
      simp only [preferX, topX, preferY, topY, if_true, Option.some.injEq] at hx hy
      subst hx hy keyX
      simp only [Prod.mk.injEq] at keyY
      rw [rankKey, rankKey]
      simp only [rankGe, Bool.or_eq_true, Bool.and_eq_true, beq_iff_eq, decide_eq_true_eq]
      omega
  rw [selectVariant, eligible]
  cases l with
  | nil => rfl
  | cons x rest =>
      obtain ⟨-, -, -, -, fits⟩ := rated x List.mem_cons_self
      simp [fits]

/-- The chosen variant is the first candidate in the list that qualifies with its own tie key:
filtering on that key keeps it chosen, and the kept candidates are tied. -/
theorem find?_tied_of_selectVariant {candidates : List Entry} {e : Entry} {p : Media.Preference}
    (chosen : selectVariant candidates accept hs = some e) (qualifies : Qualifies accept hs e p) :
    candidates.find? (qualifiesWith accept hs (p.specificity, e.sequence)) = some e := by
  have kept : qualifiesWith accept hs (p.specificity, e.sequence) e = true :=
    qualifiesWith_iff.mpr ⟨p, qualifies, rfl⟩
  rw [← List.head?_filter, ← selectVariant_of_tied fun x member => (List.mem_filter.mp member).2]
  exact selectVariant_filter_of_keep chosen kept

theorem isBest_of_selectVariant {candidates : List Entry} {e : Entry}
    (chosen : selectVariant candidates accept hs = some e) :
    ∃ p, IsBest accept hs candidates e p := by
  obtain ⟨-, fits, p, rated, best⟩ := selectVariant_eq_some chosen
  have qualifies : Qualifies accept hs e p := ⟨rated, fits⟩
  refine ⟨p, qualifies, ?_, ?_⟩
  · intro x member q ⟨ratedX, fitsX⟩
    rcases best x member fitsX q ratedX with rfl | above
    · cases Rated.unique rated ratedX
      omega
    · exact (rankGe_iff (rated.2.trans ratedX.2.symm)).mp above
  · obtain ⟨-, before, after, split, skipped⟩ :=
      List.find?_eq_some_iff_append.mp (find?_tied_of_selectVariant chosen qualifies)
    refine ⟨before, after, split, fun x member q qualifiesX key => ?_⟩
    have tied := qualifiesWith_iff.mpr ⟨q, qualifiesX, key⟩
    have notTied := skipped x member
    simp [tied] at notTied

theorem IsBest.mem {candidates : List Entry} {e : Entry} {p : Media.Preference}
    (best : IsBest accept hs candidates e p) : e ∈ candidates := by
  obtain ⟨before, after, split, -⟩ := best.first
  rw [split]
  exact List.mem_append_right before List.mem_cons_self

/-- The best variant is the first candidate in the list that qualifies with its tie key. -/
theorem IsBest.find? {candidates : List Entry} {e : Entry} {p : Media.Preference}
    (best : IsBest accept hs candidates e p) :
    candidates.find? (qualifiesWith accept hs (p.specificity, e.sequence)) = some e := by
  obtain ⟨before, after, split, skipped⟩ := best.first
  refine List.find?_eq_some_iff_append.mpr ⟨qualifiesWith_iff.mpr ⟨p, best.qualifies, rfl⟩,
    before, after, split, fun x member => ?_⟩
  cases tied : qualifiesWith accept hs (p.specificity, e.sequence) x
  · rfl
  · obtain ⟨q, qualifiesX, key⟩ := qualifiesWith_iff.mp tied
    exact absurd key (skipped x member q qualifiesX)

/-- Two best variants of one list are the same: neither has the greater tie key, and of those
with that key only the first in the list is best. -/
theorem IsBest.unique {candidates : List Entry} {e e' : Entry} {p p' : Media.Preference}
    (best : IsBest accept hs candidates e p) (best' : IsBest accept hs candidates e' p') :
    e = e' := by
  have below := best.noneAbove e' best'.mem p' best'.qualifies
  have below' := best'.noneAbove e best.mem p best.qualifies
  have key : (p'.specificity, e'.sequence) = (p.specificity, e.sequence) := by
    simp only [Prod.mk.injEq]
    omega
  have found' := best'.find?
  rw [key, best.find?] at found'
  exact Option.some.inj found'

/-- The lookup chooses the best variant of the candidates, and chooses none exactly when no
candidate is rated at the top quality of the request's Accept and fits it. -/
theorem selectVariant_picks_best (candidates : List Entry) (accept : Media.Accept)
    (hs : Headers) :
    (∀ e, selectVariant candidates accept hs = some e ↔ ∃ p, IsBest accept hs candidates e p) ∧
      (selectVariant candidates accept hs = none ↔
        ∀ x ∈ candidates, ∀ q, ¬Qualifies accept hs x q) := by
  constructor
  · intro e
    refine ⟨isBest_of_selectVariant, fun ⟨p, best⟩ => ?_⟩
    obtain ⟨e', chosen⟩ := selectVariant_isSome best.mem best.qualifies.2 best.qualifies.1
    obtain ⟨p', best'⟩ := isBest_of_selectVariant chosen
    rw [chosen, IsBest.unique best' best]
  · constructor
    · intro none x member q ⟨rated, fits⟩
      obtain ⟨e, chosen⟩ := selectVariant_isSome member fits rated
      rw [none] at chosen
      cases chosen
    · intro nothing
      cases chosen : selectVariant candidates accept hs with
      | none => rfl
      | some e =>
          obtain ⟨p, best⟩ := isBest_of_selectVariant chosen
          exact absurd best.qualifies (nothing e best.mem p)

end Cache
end ResponseCache
