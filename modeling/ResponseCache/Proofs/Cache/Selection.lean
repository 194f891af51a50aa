import ResponseCache.Cache.Select
/-!
# Which variant a request gets

A request's Accept rates each stored variant of a resource; the variants rated at the Accept's
highest quality are ranked by quality, specificity of the deciding range and sequence, and the
first whose vary values fit the request is chosen. So the chosen variant fits, is rated at the top
quality, and ranks at least as high as every other variant that does both
(`selectVariant_eq_some`); and a variant is chosen as soon as one qualifies
(`selectVariant_isSome`). Freshness takes no part: an expired variant is chosen over a fresh one
that it outranks.
-/

namespace ResponseCache
namespace Cache

/-- The request's Accept rates `e` by `p`, at its highest quality. -/
def Rated (accept : Media.Accept) (e : Entry) (p : Media.Preference) : Prop :=
  accept.preference e.media = some p ∧ p.quality = accept.topQuality

theorem rankGe_trans (a b c : Nat × Nat × Nat) (ab : rankGe a b = true)
    (bc : rankGe b c = true) : rankGe a c = true := by
  simp only [rankGe, Bool.or_eq_true, Bool.and_eq_true, beq_iff_eq, decide_eq_true_eq] at *
  omega

theorem rankGe_total (a b : Nat × Nat × Nat) : (rankGe a b || rankGe b a) = true := by
  simp only [rankGe, Bool.or_eq_true, Bool.and_eq_true, beq_iff_eq, decide_eq_true_eq]
  omega

theorem find?_le_of_pairwise {α : Type} {le : α → α → Bool} {p : α → Bool} {l : List α}
    {a : α} (sorted : l.Pairwise fun x y => le x y = true) (found : l.find? p = some a) :
    ∀ b ∈ l, p b = true → a = b ∨ le a b = true := by
  obtain ⟨-, before, after, rfl, skipped⟩ := List.find?_eq_some_iff_append.mp found
  intro b member holds
  rcases List.mem_append.mp member with early | late
  · have passed := skipped b early
    rw [holds] at passed
    cases passed
  · rcases List.mem_cons.mp late with rfl | later
    · exact .inl rfl
    · have tail := (List.pairwise_append.mp sorted).2.1
      exact .inr ((List.pairwise_cons.mp tail).1 b later)

theorem mem_ranked {candidates : List Entry} {accept : Media.Accept} {p : Media.Preference}
    {e : Entry} : (p, e) ∈ ranked candidates accept ↔ e ∈ candidates ∧ Rated accept e p := by
  simp only [ranked, List.mem_mergeSort, List.mem_filterMap, Rated]
  constructor
  · rintro ⟨x, member, chosen⟩
    cases preferred : accept.preference x.media with
    | none => simp [preferred] at chosen
    | some q =>
        by_cases top : q.quality = accept.topQuality <;>
          simp only [preferred, top, if_true, if_false, reduceCtorEq, Option.some.injEq,
            Prod.mk.injEq] at chosen
        obtain ⟨rfl, rfl⟩ := chosen
        exact ⟨member, preferred, top⟩
  · rintro ⟨member, preferred, top⟩
    exact ⟨e, member, by simp [preferred, top]⟩

theorem ranked_pairwise (candidates : List Entry) (accept : Media.Accept) :
    (ranked candidates accept).Pairwise fun a b =>
      rankGe (rankKey a.1 a.2) (rankKey b.1 b.2) = true :=
  List.pairwise_mergeSort
    (fun a b c => rankGe_trans (rankKey a.1 a.2) (rankKey b.1 b.2) (rankKey c.1 c.2))
    (fun a b => rankGe_total (rankKey a.1 a.2) (rankKey b.1 b.2)) _

/-- The chosen variant is a candidate, fits the request and is rated at the top quality, and it
ranks at least as high as every other candidate that fits and is rated so. -/
theorem selectVariant_eq_some {candidates : List Entry} {accept : Media.Accept}
    {hs : Http.Headers} {e : Entry} (chosen : selectVariant candidates accept hs = some e) :
    e ∈ candidates ∧ e.vary.mayVary hs = false ∧ ∃ p, Rated accept e p ∧
      ∀ x ∈ candidates, x.vary.mayVary hs = false → ∀ q, Rated accept x q →
        x = e ∨ rankGe (rankKey p e) (rankKey q x) = true := by
  rw [selectVariant, List.find?_map, Option.map_eq_some_iff] at chosen
  obtain ⟨⟨p, e⟩, found, rfl⟩ := chosen
  have member := List.mem_of_find?_eq_some found
  have fits : ((fun e : Entry => !e.vary.mayVary hs) ∘ Prod.snd) (p, e) = true :=
    List.find?_some found
  obtain ⟨candidate, rated⟩ := mem_ranked.mp member
  refine ⟨candidate, by simpa using fits, p, rated, fun x listed fitsToo q ratedToo => ?_⟩
  have first := find?_le_of_pairwise (ranked_pairwise candidates accept) found (q, x)
    (mem_ranked.mpr ⟨listed, ratedToo⟩) (by simp [Function.comp, fitsToo])
  rcases first with same | above
  · exact .inl (Prod.ext_iff.mp same).2.symm
  · exact .inr above

theorem selectVariant_isSome {candidates : List Entry} {accept : Media.Accept}
    {hs : Http.Headers} {x : Entry} {q : Media.Preference} (listed : x ∈ candidates)
    (fits : x.vary.mayVary hs = false) (rated : Rated accept x q) :
    ∃ e, selectVariant candidates accept hs = some e := by
  rw [← Option.isSome_iff_exists, selectVariant, List.find?_isSome]
  exact ⟨x, List.mem_map.mpr ⟨(q, x), mem_ranked.mpr ⟨listed, rated⟩, rfl⟩, by simp [fits]⟩

/-- A candidate that fits and is rated at the top quality is chosen when no other such candidate
ranks as high. -/
theorem selectVariant_eq_of_outranks {candidates : List Entry} {accept : Media.Accept}
    {hs : Http.Headers} {a : Entry} {p : Media.Preference} (listed : a ∈ candidates)
    (fits : a.vary.mayVary hs = false) (rated : Rated accept a p)
    (above : ∀ x ∈ candidates, x ≠ a → x.vary.mayVary hs = false → ∀ q, Rated accept x q →
      rankGe (rankKey q x) (rankKey p a) = false) :
    selectVariant candidates accept hs = some a := by
  obtain ⟨e, chosen⟩ := selectVariant_isSome listed fits rated
  obtain ⟨member, chosenFits, q, chosenRated, best⟩ := selectVariant_eq_some chosen
  rcases best a listed fits p rated with same | higher
  · rw [chosen, same]
  · by_cases other : e = a
    · rw [chosen, other]
    · rw [above e member other chosenFits q chosenRated] at higher
      cases higher

theorem selectVariant_singleton {accept : Media.Accept} {hs : Http.Headers} {a : Entry}
    {p : Media.Preference} (fits : a.vary.mayVary hs = false) (rated : Rated accept a p) :
    selectVariant [a] accept hs = some a :=
  selectVariant_eq_of_outranks List.mem_cons_self fits rated fun _ member other =>
    absurd (List.mem_singleton.mp member) other

/-- Of two candidates, the first is chosen when it fits and is rated at the top quality, and the
second ranks below it by the preference the header gives its type. -/
theorem selectVariant_pair {accept : Media.Accept} {hs : Http.Headers} {a b : Entry}
    {p q : Media.Preference} (fits : a.vary.mayVary hs = false) (rated : Rated accept a p)
    (rating : accept.preference b.media = some q)
    (below : rankGe (rankKey q b) (rankKey p a) = false) :
    selectVariant [a, b] accept hs = some a := by
  refine selectVariant_eq_of_outranks List.mem_cons_self fits rated ?_
  intro x member other _ r ratedOther
  have second : x = b := by
    rcases List.mem_cons.mp member with same | later
    · exact absurd same other
    · exact List.mem_singleton.mp later
  subst second
  rw [Option.some.inj (ratedOther.1.symm.trans rating)]
  exact below

end Cache
end ResponseCache
