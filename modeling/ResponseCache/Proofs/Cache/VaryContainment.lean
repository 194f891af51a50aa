import ResponseCache.Proofs.Cache.VaryFit
/-!
# Which later requests fit a stored variant

A response's Vary lists request header names, read case-insensitively and without repeats; the
pipeline records, for each of them, the values the request carried, and a later request fits the
stored variant when it still carries every recorded value, or carries none where none was
recorded. The snapshot is written as a sorted map by name, and the lookup reads each recorded
name back as a header name, so the law needs three facts: the map keeps one entry for every name
(`mem_capture_iff`), a recorded name reads back as the name it was recorded for
(`HeaderName.ofText?_text`), and the names come from the Vary elements that read as names
(`mem_varyNames_iff`). Together they give
the containment law `fits_variant_iff_carries_values`.
-/

namespace ResponseCache

namespace Http

theorem HeaderName.ofText?_lower (s : String) : ofText? (Text.lower s) = ofText? s := by
  simp only [ofText?, Text.isToken_lower, Text.length_lower, Text.lower_lower]

end Http

namespace Cache

open Http

/-! ## The names a Vary lists -/

theorem foldl_varyStep_none (vs : List String) : vs.foldl varyStep none = none :=
  (foldl_varyStep_eq_none_iff vs none).mpr (.inl rfl)

theorem mem_varyStep {before after : List HeaderName} {v : String} {n : HeaderName}
    (step : varyStep (some before) v = some after) :
    n ∈ after ↔ n ∈ before ∨ HeaderName.ofText? v = some n := by
  simp only [varyStep, Option.bind_some] at step
  rw [← HeaderName.ofText?_lower]
  split at step
  · cases step
  · split at step
    · rename_i m read
      rw [read, Option.some.injEq]
      split at step
      · rename_i repeated
        cases step
        have listed := List.contains_iff_mem.mp repeated
        constructor
        · exact .inl
        · rintro (member | rfl)
          · exact member
          · exact listed
      · cases step
        rw [List.mem_append, List.mem_singleton, @eq_comm _ m]
    · rename_i read
      cases step
      simp [read]

theorem mem_foldl_varyStep {vs : List String} {before after : List HeaderName} {n : HeaderName}
    (read : vs.foldl varyStep (some before) = some after) :
    n ∈ after ↔ n ∈ before ∨ ∃ v ∈ vs, HeaderName.ofText? v = some n := by
  induction vs generalizing before with
  | nil =>
      cases read
      simp
  | cons v rest ih =>
      rw [List.foldl_cons] at read
      cases step : varyStep (some before) v with
      | none =>
          rw [step, foldl_varyStep_none] at read
          cases read
      | some middle =>
          rw [step] at read
          rw [ih read, mem_varyStep step]
          simp only [List.mem_cons, or_and_right, exists_or, exists_eq_left, or_assoc]

/-- The names a Vary lists are the elements that read as header names, lowered. -/
theorem mem_varyNames_iff {hs : Headers} {names : List HeaderName} {n : HeaderName}
    (read : varyNames hs = some names) :
    n ∈ names ↔ ∃ v ∈ headerValues hs HeaderName.vary, HeaderName.ofText? v = some n := by
  rw [mem_foldl_varyStep read]
  simp

/-! ## The recorded snapshot -/

theorem mem_set_self (values : List String) (name : String) :
    ∀ l : List (String × List String), (name, values) ∈ VarySnapshot.set values name l
  | [] => List.mem_singleton_self _
  | (n, vs) :: rest => by
      unfold VarySnapshot.set
      split
      · exact List.mem_cons_self
      · split
        · exact List.mem_cons_self
        · exact List.mem_cons_of_mem _ (mem_set_self values name rest)

theorem mem_set_of_ne {values : List String} {name : String} {x : String × List String}
    (other : x.1 ≠ name) : ∀ {l : List (String × List String)}, x ∈ l →
      x ∈ VarySnapshot.set values name l
  | [], member => absurd member List.not_mem_nil
  | (n, vs) :: rest, member => by
      unfold VarySnapshot.set
      split
      · exact List.mem_cons_of_mem _ member
      · split
        · rename_i same
          subst same
          rcases List.mem_cons.mp member with rfl | later
          · exact absurd rfl other
          · exact List.mem_cons_of_mem _ later
        · rcases List.mem_cons.mp member with rfl | later
          · exact List.mem_cons_self
          · exact List.mem_cons_of_mem _ (mem_set_of_ne other later)

section Fold

variable {x : String × List String}

/-- An entry survives the later pairs when those of its name carry its values. -/
theorem mem_foldl_set_of_mem_acc : ∀ {ps acc : List (String × List String)}, x ∈ acc →
    (∀ q ∈ ps, q.1 = x.1 → q = x) → x ∈ ps.foldl (fun acc p => VarySnapshot.set p.2 p.1 acc) acc
  | [], _, member, _ => member
  | q :: ps, acc, member, same => by
      rw [List.foldl_cons]
      apply mem_foldl_set_of_mem_acc _ fun r later => same r (List.mem_cons_of_mem _ later)
      by_cases key : q.1 = x.1
      · rw [same q List.mem_cons_self key]
        exact mem_set_self x.2 x.1 acc
      · exact mem_set_of_ne (Ne.symm key) member

theorem mem_foldl_set_of_mem : ∀ {ps acc : List (String × List String)}, x ∈ ps →
    (∀ q ∈ ps, q.1 = x.1 → q = x) → x ∈ ps.foldl (fun acc p => VarySnapshot.set p.2 p.1 acc) acc
  | q :: ps, acc, member, same => by
      rw [List.foldl_cons]
      have sameLater : ∀ r ∈ ps, r.1 = x.1 → r = x := fun r later =>
        same r (List.mem_cons_of_mem _ later)
      rcases List.mem_cons.mp member with rfl | later
      · exact mem_foldl_set_of_mem_acc (mem_set_self _ _ _) sameLater
      · exact mem_foldl_set_of_mem later sameLater

end Fold

/-- The snapshot of a request holds, for every name, the request's values of that name. -/
theorem mem_capture_iff {hs : Headers} {names : List HeaderName} {x : String × List String} :
    x ∈ (VarySnapshot.capture hs names).entries ↔
      ∃ n ∈ names, x = (n.text, headerValues hs n) := by
  constructor
  · intro member
    obtain ⟨n, listed, rfl⟩ := List.mem_map.mp (mem_ofList member)
    exact ⟨n, listed, rfl⟩
  · rintro ⟨n, listed, rfl⟩
    apply mem_foldl_set_of_mem (List.mem_map.mpr ⟨n, listed, rfl⟩)
    intro q member sameName
    obtain ⟨m, -, rfl⟩ := List.mem_map.mp member
    have same : m = n := by
      cases m
      cases n
      cases sameName
      rfl
    rw [same]

/-! ## Fitting a variant -/

/-- A request fits a snapshot when every recorded name reads as a header name of which it
carries every recorded value, and none where none was recorded. -/
theorem mayVary_eq_false_iff {snap : VarySnapshot} {hs : Headers} :
    snap.mayVary hs = false ↔ ∀ x ∈ snap.entries, ∃ n, HeaderName.ofText? x.1 = some n ∧
      (x.2 = [] → headerValues hs n = []) ∧ ∀ v ∈ x.2, v ∈ headerValues hs n := by
  rw [VarySnapshot.mayVary, List.any_eq_false]
  apply forall_congr'
  rintro ⟨name, stored⟩
  apply imp_congr_right
  intro _
  dsimp only
  cases read : HeaderName.ofText? name with
  | none => simp
  | some n =>
      cases stored with
      | nil => simp
      | cons v vs => simp

/-- The variant recorded for a request with headers `hs` fits a later request exactly when that
request carries every value `hs` carried for each name, and none where `hs` carried none. -/
theorem mayVary_capture_eq_false_iff {hs later : Headers} {names : List HeaderName} :
    (VarySnapshot.capture hs names).mayVary later = false ↔ ∀ n ∈ names,
      (headerValues hs n = [] → headerValues later n = []) ∧
        ∀ x ∈ headerValues hs n, x ∈ headerValues later n := by
  rw [mayVary_eq_false_iff]
  constructor
  · intro fits n listed
    obtain ⟨m, read, fitsName⟩ := fits _ (mem_capture_iff.mpr ⟨n, listed, rfl⟩)
    rw [HeaderName.ofText?_text, Option.some.injEq] at read
    subst read
    exact fitsName
  · intro carries x member
    obtain ⟨n, listed, rfl⟩ := mem_capture_iff.mp member
    exact ⟨n, HeaderName.ofText?_text n, carries n listed⟩

/-- The containment law of Vary. For a response whose Vary does not say `*`, the names it lists
are read, and the variant stored with the values a request `hs` carried for them fits a later
request exactly when, for every element of the Vary that reads as a header name, the later
request carries every value `hs` carried for that name, and carries none where `hs` carried none.
In particular the request that created the variant fits it. -/
theorem fits_variant_iff_carries_values {resp : Headers} (hs later : Headers)
    (noStar : "*" ∉ headerValues resp HeaderName.vary) :
    ∃ names, varyNames resp = some names ∧
      ((VarySnapshot.capture hs names).mayVary later = false ↔
        ∀ v ∈ headerValues resp HeaderName.vary, ∀ n, HeaderName.ofText? v = some n →
          (headerValues hs n = [] → headerValues later n = []) ∧
            ∀ x ∈ headerValues hs n, x ∈ headerValues later n) ∧
      (VarySnapshot.capture hs names).mayVary hs = false := by
  obtain ⟨names, read⟩ := Option.ne_none_iff_exists'.mp fun none =>
    noStar ((varyNames_eq_none_iff resp).mp none)
  refine ⟨names, read, ?_, capture_mayVary_eq_false hs names⟩
  rw [mayVary_capture_eq_false_iff]
  constructor
  · intro carries v listed n named
    exact carries n ((mem_varyNames_iff read).mpr ⟨v, listed, named⟩)
  · intro carries n listed
    obtain ⟨v, element, named⟩ := (mem_varyNames_iff read).mp listed
    exact carries v element n named

/-- A response that varies on `Accept-Language`, stored for a request carrying `en, fr`: a later
request carrying `fr, en, de` fits the variant. -/
theorem fits_variant_of_more_languages :
    let resp : Headers := ⟨[(HeaderName.vary, ⟨"Accept-Language".toList.map (·.toNat.toUInt8)⟩)]⟩
    let language : HeaderName := ⟨"accept-language", by decide⟩
    let hs : Headers := ⟨[(language, ⟨"en, fr".toList.map (·.toNat.toUInt8)⟩)]⟩
    let later : Headers := ⟨[(language, ⟨"fr, en, de".toList.map (·.toNat.toUInt8)⟩)]⟩
    "*" ∉ headerValues resp HeaderName.vary ∧
      ∃ names, varyNames resp = some names ∧
        ((VarySnapshot.capture hs names).mayVary later = false ↔
          ∀ v ∈ headerValues resp HeaderName.vary, ∀ n, HeaderName.ofText? v = some n →
            (headerValues hs n = [] → headerValues later n = []) ∧
              ∀ x ∈ headerValues hs n, x ∈ headerValues later n) ∧
        (VarySnapshot.capture hs names).mayVary hs = false := by
  intro resp language hs later
  have noStar : "*" ∉ headerValues resp HeaderName.vary := by decide
  exact ⟨noStar, fits_variant_iff_carries_values hs later noStar⟩

end Cache

end ResponseCache
