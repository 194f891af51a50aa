import ResponseCache.Validation.EntityTag
/-!
# Entity tags read back from their wire form

An entity tag read from any text is written on the wire as its value in double quotes, after
`W/` when it is weak, and that text reads back as the same tag. Likewise the strong and the weak
wire forms of any value that reading a token can produce read back as the strong and the weak tag
of that value. So the tag a cache writes for a stored answer is recognised when a client sends it
back.
-/

namespace ResponseCache
namespace Validation
namespace EntityTag

theorem parse?_header :
    (∀ (t : String) (e : EntityTag), parse? t = some e → parse? e.header = some e) ∧
      ∀ (t v : String), normalize? t = some v →
        parse? (strong v).header = some (strong v) ∧
          parse? (weakTag v).header = some (weakTag v) := by
  constructor
  · intro t e h
    simp only [parse?, Option.map_eq_some_iff] at h
    obtain ⟨v, hv, rfl⟩ := h
    obtain ⟨tag, rfl, htrim, hne⟩ := normalize?_eq_some hv
    exact parse?_header_of_trimmed tag _ htrim hne
  · intro t v h
    obtain ⟨tag, rfl, htrim, hne⟩ := normalize?_eq_some h
    exact ⟨parse?_header_of_trimmed tag false htrim hne,
      parse?_header_of_trimmed tag true htrim hne⟩

theorem parse?_header_of_weak_token :
    parse? " W/\"v1\" " = some ⟨"v1", true⟩ ∧
      parse? (EntityTag.header ⟨"v1", true⟩) = some ⟨"v1", true⟩ ∧
      normalize? " 'v1' " = some "v1" ∧
      parse? (strong "v1").header = some (strong "v1") ∧
      parse? (weakTag "v1").header = some (weakTag "v1") :=
  have hparse : parse? " W/\"v1\" " = some ⟨"v1", true⟩ := by decide
  have hnormal : normalize? " 'v1' " = some "v1" := by decide
  ⟨hparse, parse?_header.1 _ _ hparse, hnormal, parse?_header.2 _ _ hnormal⟩

end EntityTag
end Validation
end ResponseCache
