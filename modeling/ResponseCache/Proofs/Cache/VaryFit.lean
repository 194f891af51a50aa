import ResponseCache.Proofs.Cache.RequestEffects
/-!
# A variant fits the request it was stored for

A stored variant records, for each name its response's Vary lists, the values the creating
request carried, under the name's spelling. A header name is a lowered token, so its spelling
reads back as the name itself, and the creating request carries exactly the recorded values.
Hence the variant fits that request (`capture_mayVary_eq_false`): a request is never turned away
by the Vary of the answer it was given.
-/

namespace ResponseCache

namespace Cache

open Http

theorem mem_set {values : List String} {name : String} {x : String × List String} :
    ∀ {l : List (String × List String)}, x ∈ VarySnapshot.set values name l →
      x = (name, values) ∨ x ∈ l
  | [], member => .inl (List.mem_singleton.mp member)
  | (n, vs) :: rest, member => by
      unfold VarySnapshot.set at member
      split at member
      · simpa using member
      · split at member
        · rcases List.mem_cons.mp member with here | later
          · exact .inl here
          · exact .inr (List.mem_cons_of_mem _ later)
        · rcases List.mem_cons.mp member with here | later
          · exact .inr (here ▸ List.mem_cons_self)
          · rcases mem_set later with fresh | old
            · exact .inl fresh
            · exact .inr (List.mem_cons_of_mem _ old)

theorem mem_ofList {pairs : List (String × List String)} {x : String × List String}
    (member : x ∈ (VarySnapshot.ofList pairs).entries) : x ∈ pairs := by
  suffices grow : ∀ (ps : List (String × List String)) (acc : List (String × List String)),
      x ∈ ps.foldl (fun acc p => VarySnapshot.set p.2 p.1 acc) acc → x ∈ acc ∨ x ∈ ps by
    simpa using grow pairs [] member
  intro ps
  induction ps with
  | nil => exact fun _ member => .inl member
  | cons p ps ih =>
      intro acc member
      rcases ih _ member with inner | later
      · rcases mem_set inner with rfl | old
        · exact .inr List.mem_cons_self
        · exact .inl old
      · exact .inr (List.mem_cons_of_mem _ later)

/-- A variant fits the request whose values it recorded. -/
theorem capture_mayVary_eq_false (hs : Headers) (names : List HeaderName) :
    (VarySnapshot.capture hs names).mayVary hs = false := by
  rw [VarySnapshot.mayVary, List.any_eq_false]
  rintro ⟨name, stored⟩ member
  obtain ⟨n, listed, same⟩ := List.mem_map.mp (mem_ofList member)
  cases same
  simp only [HeaderName.ofText?_text]
  by_cases empty : (headerValues hs n).isEmpty <;> simp [empty]

end Cache

end ResponseCache
