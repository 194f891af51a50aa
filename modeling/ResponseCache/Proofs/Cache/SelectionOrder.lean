import ResponseCache.Proofs.Cache.Selection
import Mathlib.Data.List.Nodup
/-!
# The chosen variant and the order of the candidates

The candidates are ranked by a stable sort, so between two candidates of equal rank the order in
which the backend lists them decides. A rank ends with the sequence number, so candidates with
distinct numbers never tie, and then every order of them leads to the same choice
(`selectVariant_perm`).

Stability has a second consequence: dropping candidates, with the rest kept in order, leaves the
chosen variant chosen as long as it is kept (`selectVariant_filter_of_keep`). Sorting commutes
with keeping (`mergeSort_filter`), and the first candidate that fits is still the first among
those kept.
-/

namespace ResponseCache
namespace Cache

section Stable

variable {α : Type}

/-- A list made of a part that satisfies `q` and then a part that does not splits there in one
way only. -/
theorem eq_of_append_eq_append_split {q : α → Bool} {front back front' back' : List α}
    (inFront : ∀ x ∈ front, q x = true) (inBack : ∀ x ∈ back, q x = false)
    (inFront' : ∀ x ∈ front', q x = true) (inBack' : ∀ x ∈ back', q x = false)
    (same : front ++ back = front' ++ back') : front = front' ∧ back = back' := by
  have fronts : ∀ {f b : List α}, (∀ x ∈ f, q x = true) → (∀ x ∈ b, q x = false) →
      (f ++ b).filter q = f := fun inF inB => by
    rw [List.filter_append, List.filter_eq_self.mpr inF,
      List.filter_eq_nil_iff.mpr fun x hx => by simp [inB x hx], List.append_nil]
  have backs : ∀ {f b : List α}, (∀ x ∈ f, q x = true) → (∀ x ∈ b, q x = false) →
      (f ++ b).filter (!q ·) = b := fun inF inB => by
    rw [List.filter_append, List.filter_eq_nil_iff.mpr fun x hx => by simp [inF x hx],
      List.filter_eq_self.mpr fun x hx => by simp [inB x hx], List.nil_append]
  constructor
  · rw [← fronts inFront inBack, same, fronts inFront' inBack']
  · rw [← backs inFront inBack, same, backs inFront' inBack']

variable {le : α → α → Bool}

/-- A sorted list puts after `a` only members that `a` may precede. -/
theorem le_of_mem_after_mergeSort (trans : ∀ a b c, le a b = true → le b c = true → le a c = true)
    (total : ∀ a b, (le a b || le b a) = true) {a : α} {l before after : List α}
    (split : (a :: l).mergeSort le = before ++ a :: after) : ∀ b ∈ after, le a b = true := by
  have sorted := List.pairwise_mergeSort trans total (a :: l)
  rw [split, List.pairwise_append, List.pairwise_cons] at sorted
  exact sorted.2.1.1

/-- Merge sort is stable: sorting the members that `p` keeps orders them as sorting the whole
list and then keeping them does. -/
theorem mergeSort_filter (trans : ∀ a b c, le a b = true → le b c = true → le a c = true)
    (total : ∀ a b, (le a b || le b a) = true) (p : α → Bool) (l : List α) :
    (l.filter p).mergeSort le = (l.mergeSort le).filter p := by
  induction l with
  | nil => simp
  | cons a rest ih =>
      obtain ⟨before, after, sortedAll, sortedRest, beforeA⟩ :=
        List.mergeSort_cons trans total a rest
      have afterA := le_of_mem_after_mergeSort trans total sortedAll
      rw [sortedAll, List.filter_append]
      by_cases kept : p a = true
      · obtain ⟨before', after', sortedKept, sortedKeptRest, beforeA'⟩ :=
          List.mergeSort_cons trans total a (rest.filter p)
        have afterA' := le_of_mem_after_mergeSort trans total sortedKept
        rw [sortedKeptRest, sortedRest, List.filter_append] at ih
        obtain ⟨rfl, rfl⟩ := eq_of_append_eq_append_split (q := fun b => !le a b) beforeA'
          (fun b hb => by simp [afterA' b hb])
          (fun b hb => beforeA b (List.mem_of_mem_filter hb))
          (fun b hb => by simp [afterA b (List.mem_of_mem_filter hb)]) ih
        rw [List.filter_cons_of_pos kept, sortedKept, List.filter_cons_of_pos kept]
      · rw [List.filter_cons_of_neg kept, ih, sortedRest, List.filter_append,
          List.filter_cons_of_neg kept]

/-- The first member that satisfies `p` is also the first that satisfies `p` and `q`, when it
satisfies `q`. -/
theorem find?_and_of_find? {l : List α} {p q : α → Bool} {a : α} (found : l.find? p = some a)
    (holds : q a = true) : l.find? (fun x => q x && p x) = some a := by
  obtain ⟨satisfies, before, after, rfl, skipped⟩ := List.find?_eq_some_iff_append.mp found
  have notBefore : ∀ x ∈ before, p x = false := fun x hx => by simpa using skipped x hx
  rw [List.find?_append, List.find?_eq_none.mpr fun x hx => by simp [notBefore x hx],
    Option.none_or, List.find?_cons_of_pos]
  simp [holds, satisfies]

end Stable

/-- The ranking of the candidates that a filter keeps is the ranking of all, less those it
drops. -/
theorem ranked_filter (candidates : List Entry) (accept : Media.Accept) (keep : Entry → Bool) :
    ranked (candidates.filter keep) accept = (ranked candidates accept).filter (keep ·.2) := by
  dsimp only [ranked]
  rw [← mergeSort_filter
    (fun a b c => rankGe_trans (rankKey a.1 a.2) (rankKey b.1 b.2) (rankKey c.1 c.2))
    (fun a b => rankGe_total (rankKey a.1 a.2) (rankKey b.1 b.2)),
    List.filterMap_filter, List.filter_filterMap]
  congr 2
  funext x
  cases preferred : accept.preference x.media with
  | none => simp
  | some p => by_cases top : p.quality = accept.topQuality <;> simp [top, Option.filter]

/-- Choosing among the candidates a filter keeps is choosing, in the ranking of all, the first
that is kept and fits. -/
theorem selectVariant_filter (candidates : List Entry) (accept : Media.Accept)
    (hs : Http.Headers) (keep : Entry → Bool) :
    selectVariant (candidates.filter keep) accept hs =
      ((ranked candidates accept).map Prod.snd).find? fun e => keep e && !e.vary.mayVary hs := by
  rw [selectVariant, ranked_filter, ← Function.comp_def keep Prod.snd, ← List.filter_map,
    List.find?_filter]
  simp

/-- Dropping candidates leaves the chosen variant chosen when it is kept. -/
theorem selectVariant_filter_of_keep {candidates : List Entry} {accept : Media.Accept}
    {hs : Http.Headers} {keep : Entry → Bool} {e : Entry}
    (chosen : selectVariant candidates accept hs = some e) (kept : keep e = true) :
    selectVariant (candidates.filter keep) accept hs = some e := by
  rw [selectVariant_filter]
  exact find?_and_of_find? chosen kept

theorem rankGe_antisymm {a b : Nat × Nat × Nat} (ab : rankGe a b = true)
    (ba : rankGe b a = true) : a = b := by
  obtain ⟨a₁, a₂, a₃⟩ := a
  obtain ⟨b₁, b₂, b₃⟩ := b
  simp only [rankGe, Bool.or_eq_true, Bool.and_eq_true, beq_iff_eq, decide_eq_true_eq] at ab ba
  simp only [Prod.mk.injEq]
  omega

/-- Among candidates with distinct sequence numbers, the variant chosen from one order of them is
chosen from every other. -/
theorem selectVariant_perm_of_eq_some {candidates others : List Entry} {accept : Media.Accept}
    {hs : Http.Headers} {e : Entry} (distinct : (candidates.map Entry.sequence).Nodup)
    (perm : others.Perm candidates) (chosen : selectVariant candidates accept hs = some e) :
    selectVariant others accept hs = some e := by
  obtain ⟨member, fits, p, rated, best⟩ := selectVariant_eq_some chosen
  refine selectVariant_eq_of_outranks (perm.mem_iff.mpr member) fits rated ?_
  intro x listed other fitsToo q ratedToo
  have listed' := perm.mem_iff.mp listed
  rcases best x listed' fitsToo q ratedToo with same | above
  · exact absurd same other
  · cases outranks : rankGe (rankKey q x) (rankKey p e)
    · rfl
    · have sameRank := rankGe_antisymm outranks above
      have sameNumber : x.sequence = e.sequence := congrArg (fun k => k.2.2) sameRank
      exact absurd (List.inj_on_of_nodup_map distinct listed' member sameNumber) other

/-- The choice does not depend on the order of candidates with distinct sequence numbers. -/
theorem selectVariant_perm {candidates others : List Entry} (accept : Media.Accept)
    (hs : Http.Headers) (distinct : (candidates.map Entry.sequence).Nodup)
    (perm : others.Perm candidates) :
    selectVariant others accept hs = selectVariant candidates accept hs := by
  cases chosen : selectVariant candidates accept hs with
  | some e => exact selectVariant_perm_of_eq_some distinct perm chosen
  | none =>
      cases chosenOther : selectVariant others accept hs with
      | none => rfl
      | some e =>
          have distinctOthers : (others.map Entry.sequence).Nodup :=
            (perm.map Entry.sequence).nodup_iff.mpr distinct
          rw [selectVariant_perm_of_eq_some distinctOthers perm.symm chosenOther] at chosen
          cases chosen

end Cache
end ResponseCache
