import ResponseCache.Proofs.Media.AcceptGrammar
import ResponseCache.Proofs.Cache.VaryFit
/-!
# Reading media types

Reading a media type is blind to ASCII case (`parse?_lower`): lowering touches letters only, and
every step of reading (cutting at `;` and `/`, trimming blanks, checking tokens, spotting the
wildcard) treats a letter and its lowered form alike, while the parts read are lowered anyway.

What reading gives is well formed: type and subtype are tokens with no capital letter, and the
type is `*` only over the subtype `*` (`parse?_wellFormed`). A well-formed media type written as
`type/subtype` reads back as itself (`parse?_text`), since a token holds no blank, `;` or `/`.
The media type a response declares is never a wildcard.
-/

namespace ResponseCache

namespace Text

/-- A character that is no ASCII letter. -/
def IsNotLetter (d : Char) : Prop :=
  ¬(65 ≤ d.toNat ∧ d.toNat ≤ 90) ∧ ¬(97 ≤ d.toNat ∧ d.toNat ≤ 122)

/-- Lowering meets a character that is no letter only at that character itself. -/
theorem lowerChar_eq_iff {c d : Char} (other : IsNotLetter d) : lowerChar c = d ↔ c = d := by
  by_cases upper : 65 ≤ c.toNat ∧ c.toNat ≤ 90
  · have lowered := toNat_lowerChar c
    rw [if_pos upper] at lowered
    constructor
    · intro same
      have letter : 97 ≤ d.toNat ∧ d.toNat ≤ 122 := by
        rw [← same, lowered]
        omega
      exact absurd letter other.2
    · rintro rfl
      exact absurd upper other.1
  · rw [lowerChar_of_not_upper upper]

/-- A visible ASCII character is no blank. -/
theorem isBlank_of_visible {c : Char} (low : 33 ≤ c.toNat) (high : c.toNat ≤ 126) :
    isBlank c = false := by
  simp only [isBlank, Bool.or_eq_false_iff, Bool.and_eq_false_iff, decide_eq_false_iff_not,
    beq_eq_false_iff_ne]
  omega

theorem isBlank_lowerChar (c : Char) : isBlank (lowerChar c) = isBlank c := by
  by_cases upper : 65 ≤ c.toNat ∧ c.toNat ≤ 90
  · have lowered := toNat_lowerChar c
    rw [if_pos upper] at lowered
    rw [isBlank_of_visible (by omega) (by omega), isBlank_of_visible (by omega) (by omega)]
  · rw [lowerChar_of_not_upper upper]

theorem dropBlanks_map_lowerChar (cs : List Char) :
    dropBlanks (cs.map lowerChar) = (dropBlanks cs).map lowerChar := by
  have same : isBlank ∘ lowerChar = isBlank := funext isBlank_lowerChar
  rw [dropBlanks, List.dropWhile_map, same, dropBlanks]

theorem trimList_map_lowerChar (cs : List Char) :
    trimList (cs.map lowerChar) = (trimList cs).map lowerChar := by
  rw [trimList, dropBlanks_map_lowerChar, ← List.map_reverse, dropBlanks_map_lowerChar,
    ← List.map_reverse, trimList]

theorem trim_lower (s : String) : trim (lower s) = lower (trim s) := by
  rw [trim, toList_lower, trimList_map_lowerChar, lower, trim, String.toList_ofList]

theorem splitOnP_map {α β : Type} (f : α → β) (p : β → Bool) (l : List α) :
    (l.map f).splitOnP p = (l.splitOnP (p ∘ f)).map (List.map f) := by
  induction l with
  | nil => rfl
  | cons x rest ih =>
      rw [List.map_cons, List.splitOnP_cons_eq_if_modifyHead, List.splitOnP_cons_eq_if_modifyHead, ih]
      by_cases sep : p (f x) = true
      · rw [if_pos sep, if_pos (by simpa using sep)]
        rfl
      · rw [if_neg sep, if_neg (by simpa using sep)]
        cases pieces : rest.splitOnP (p ∘ f) with
        | nil => exact absurd pieces (List.splitOnP_ne_nil _ _)
        | cons first others => rfl

/-- Lowering a text lowers the pieces it splits into at a character that is no letter. -/
theorem splitAll_lower {sep : Char} (other : IsNotLetter sep) (s : String) :
    splitAll sep (lower s) = (splitAll sep s).map lower := by
  have same : ((· == sep) ∘ lowerChar) = (· == sep) := by
    funext c
    rw [Function.comp_apply, Bool.eq_iff_iff, beq_iff_eq, beq_iff_eq]
    exact lowerChar_eq_iff other
  rw [splitAll, toList_lower, List.splitOn_eq_splitOnP, splitOnP_map, same, splitAll,
    List.splitOn_eq_splitOnP, List.map_map, List.map_map]
  congr 1
  funext cs
  simp [lower]

/-- Lowering a text lowers both sides of its first `sep`, for `sep` no letter. -/
theorem splitOnce_lower {sep : Char} (other : IsNotLetter sep) (s : String) :
    splitOnce sep (lower s) = (splitOnce sep s).map fun parts => (lower parts.1, lower parts.2) := by
  have absent : ∀ cs : List Char, sep ∉ cs → sep ∉ cs.map lowerChar := by
    intro cs missing member
    obtain ⟨c, inside, same⟩ := List.mem_map.mp member
    exact missing ((lowerChar_eq_iff other).mp same ▸ inside)
  cases split : splitOnce sep s with
  | none =>
      rw [Option.map_none, splitOnce_eq_none_iff, toList_lower]
      exact absent _ (splitOnce_eq_none_iff.mp split)
  | some parts =>
      obtain ⟨front, back⟩ := parts
      obtain ⟨spelled, missing⟩ := splitOnce_eq_some_iff.mp split
      rw [Option.map_some, splitOnce_eq_some_iff, toList_lower, toList_lower, toList_lower,
        spelled, List.map_append, List.map_cons, (lowerChar_eq_iff other).mpr rfl]
      exact ⟨rfl, absent _ missing⟩

theorem lower_eq_iff {x : String} {d : Char} (other : IsNotLetter d) :
    lower x = String.ofList [d] ↔ x = String.ofList [d] := by
  rw [← String.toList_inj, toList_lower, String.toList_ofList, ← String.toList_inj,
    String.toList_ofList, List.map_eq_singleton_iff]
  constructor
  · rintro ⟨c, spelled, same⟩
    rw [spelled, (lowerChar_eq_iff other).mp same]
  · intro spelled
    exact ⟨d, spelled, (lowerChar_eq_iff other).mpr rfl⟩

/-- The code of a token character: a digit, a letter, or token punctuation. -/
theorem toNat_of_isTokenChar {c : Char} (token : isTokenChar c = true) :
    (48 ≤ c.toNat ∧ c.toNat ≤ 57) ∨ (65 ≤ c.toNat ∧ c.toNat ≤ 90) ∨
      (97 ≤ c.toNat ∧ c.toNat ≤ 122) ∨ c.toNat ∈ tokenPunctuation := by
  have classes : isTokenChar c = (decide (c.val ≥ 'A'.val ∧ c.val ≤ 'Z'.val) ||
      (decide (c.val ≥ 'a'.val) && decide (c.val ≤ 'z'.val)) ||
      (decide ('0'.val ≤ c.val) && decide (c.val ≤ '9'.val)) ||
      tokenPunctuation.contains c.toNat) := rfl
  rw [classes] at token
  simp only [Bool.or_eq_true, Bool.and_eq_true, decide_eq_true_eq, UInt32.le_iff_toNat_le,
    ge_iff_le, List.contains_iff_mem] at token
  rcases token with ((upper | lower) | digit) | punctuation
  · exact .inr (.inl upper)
  · exact .inr (.inr (.inl lower))
  · exact .inl digit
  · exact .inr (.inr (.inr punctuation))

/-- A token character is no blank, no `;` and no `/`. -/
theorem isTokenChar_separate {c : Char} (token : isTokenChar c = true) :
    isBlank c = false ∧ c ≠ ';' ∧ c ≠ '/' := by
  have code := toNat_of_isTokenChar token
  simp only [tokenPunctuation, List.mem_cons, List.not_mem_nil, or_false] at code
  refine ⟨isBlank_of_visible (by omega) (by omega), fun semicolon => ?_, fun slash => ?_⟩
  · have : c.toNat = 59 := by rw [semicolon]; rfl
    omega
  · have : c.toNat = 47 := by rw [slash]; rfl
    omega

theorem isTokenChar_of_isToken {s : String} (token : isToken s = true) :
    ∀ c ∈ s.toList, isTokenChar c = true := by
  simp only [isToken, Bool.and_eq_true, Bool.not_eq_eq_eq_not, Bool.not_true,
    List.all_eq_true] at token
  exact token.2

theorem trim_of_isToken {s : String} (token : isToken s = true) : trim s = s := by
  rw [trim, trimList_of_not_blank fun c member =>
    (isTokenChar_separate (isTokenChar_of_isToken token c member)).1, String.ofList_toList]

end Text

namespace Media

namespace MediaType

open Text

theorem wildcard_isNotLetter : IsNotLetter '*' := by
  unfold IsNotLetter
  decide

theorem semicolon_isNotLetter : IsNotLetter ';' := by
  unfold IsNotLetter
  decide

theorem slash_isNotLetter : IsNotLetter '/' := by
  unfold IsNotLetter
  decide

theorem lower_beq_wildcard (x : String) : (lower x == wildcard) = (x == wildcard) := by
  have spelled : wildcard = String.ofList ['*'] := rfl
  rw [Bool.eq_iff_iff, beq_iff_eq, beq_iff_eq, spelled, lower_eq_iff wildcard_isNotLetter]

theorem ofParts_lower (t s : String) : ofParts (lower t) (lower s) = ofParts t s := by
  rw [ofParts, ofParts, lower_lower, lower_lower]

/-- Reading a media type is blind to ASCII case. -/
theorem parse?_lower (value : String) : parse? (lower value) = parse? value := by
  have first : ∀ l : List String, (l.map lower).headD "" = lower (l.headD "") := by
    intro l
    cases l <;> rfl
  have essence : trim ((splitAll ';' (lower value)).headD "") =
      lower (trim ((splitAll ';' value).headD "")) := by
    rw [splitAll_lower semicolon_isNotLetter, first, trim_lower]
  unfold parse?
  simp only [essence, lower_beq_wildcard, splitOnce_lower slash_isNotLetter]
  split
  · rfl
  · cases splitOnce '/' (trim ((splitAll ';' value).headD "")) with
    | none => rfl
    | some parts =>
        simp only [Option.map_some, trim_lower, isToken_lower, bne, lower_beq_wildcard,
          ofParts_lower]

/-- A media type as reading gives it: type and subtype are tokens with no capital ASCII letter,
and the type is `*` only over the subtype `*`. -/
structure WellFormed (m : MediaType) : Prop where
  mainType_token : isToken m.mainType = true
  subtype_token : isToken m.subtype = true
  mainType_lower : lower m.mainType = m.mainType
  subtype_lower : lower m.subtype = m.subtype
  wildcard_subtype : m.mainType = wildcard → m.subtype = wildcard

theorem any_wellFormed : any.WellFormed where
  mainType_token := by decide
  subtype_token := by decide
  mainType_lower := by decide
  subtype_lower := by decide
  wildcard_subtype := fun _ => rfl

theorem ofParts_wellFormed {t s : String} (tToken : isToken t = true) (sToken : isToken s = true)
    (wild : t = wildcard → s = wildcard) : (ofParts t s).WellFormed where
  mainType_token := by rw [ofParts, isToken_lower, tToken]
  subtype_token := by rw [ofParts, isToken_lower, sToken]
  mainType_lower := lower_lower t
  subtype_lower := lower_lower s
  wildcard_subtype := by
    intro lowered
    have starred : (t == wildcard) = true := by
      rw [← lower_beq_wildcard]
      exact beq_iff_eq.mpr lowered
    show lower s = wildcard
    rw [wild (beq_iff_eq.mp starred)]
    rfl

/-- What reading gives is well formed. -/
theorem parse?_wellFormed {value : String} {m : MediaType} (read : parse? value = some m) :
    m.WellFormed := by
  unfold parse? at read
  dsimp only at read
  split at read
  · cases read
    exact any_wellFormed
  · split at read
    · cases read
    · rename_i t s _
      split at read
      · cases read
      · rename_i tokens
        split at read
        · cases read
        · rename_i concrete
          rw [← Option.some.inj read]
          simp only [Bool.or_eq_true, Bool.not_eq_eq_eq_not, Bool.not_true, not_or,
            Bool.not_eq_false] at tokens
          simp only [Bool.and_eq_true, beq_iff_eq, bne_iff_ne, ne_eq, not_and,
            Decidable.not_not] at concrete
          exact ofParts_wellFormed tokens.1 tokens.2 concrete

theorem text_toList (m : MediaType) : m.text.toList = m.mainType.toList ++ '/' :: m.subtype.toList := by
  simp [text]

/-- A well-formed media type written as `type/subtype` reads back as itself. -/
theorem parse?_text {m : MediaType} (wf : m.WellFormed) : parse? m.text = some m := by
  have mainChars := isTokenChar_of_isToken wf.mainType_token
  have subChars := isTokenChar_of_isToken wf.subtype_token
  have chars : ∀ c ∈ m.text.toList, isBlank c = false ∧ c ≠ ';' := by
    intro c member
    rw [text_toList, List.mem_append, List.mem_cons] at member
    rcases member with inType | rfl | inSubtype
    · exact ⟨(isTokenChar_separate (mainChars c inType)).1,
        (isTokenChar_separate (mainChars c inType)).2.1⟩
    · decide
    · exact ⟨(isTokenChar_separate (subChars c inSubtype)).1,
        (isTokenChar_separate (subChars c inSubtype)).2.1⟩
  have whole : splitAll ';' m.text = [m.text] :=
    splitAll_of_not_mem fun member => (chars ';' member).2 rfl
  have trimmed : trim m.text = m.text := by
    rw [trim, trimList_of_not_blank fun c member => (chars c member).1, String.ofList_toList]
  have notWild : (m.text == wildcard) = false := by
    rw [beq_eq_false_iff_ne]
    intro same
    have slash : '/' ∈ m.text.toList := by
      rw [text_toList]
      exact List.mem_append_right _ List.mem_cons_self
    rw [same] at slash
    exact absurd slash (by decide)
  have split : splitOnce '/' m.text = some (m.mainType, m.subtype) :=
    splitOnce_eq_some_iff.mpr ⟨text_toList m, fun member =>
      (isTokenChar_separate (mainChars '/' member)).2.2 rfl⟩
  have concrete : (m.mainType == wildcard && m.subtype != wildcard) = false := by
    by_cases starred : m.mainType = wildcard
    · simp [wf.wildcard_subtype starred]
    · simp [starred]
  unfold parse?
  simp only [whole, List.headD_cons, trimmed, notWild, split, trim_of_isToken wf.mainType_token,
    trim_of_isToken wf.subtype_token, wf.mainType_token, wf.subtype_token, concrete]
  rw [ofParts, wf.mainType_lower, wf.subtype_lower]
  rfl

/-- The media type a response declares is never a wildcard. -/
theorem ofContentType_concrete (hs : Http.Headers) :
    (ofContentType hs).isWildcardType = false ∧ (ofContentType hs).isWildcardSubtype = false := by
  unfold ofContentType
  split
  · rename_i m _
    by_cases wild : (m.isWildcardType || m.isWildcardSubtype) = true
    · rw [if_pos wild]
      decide
    · rw [if_neg wild]
      simpa using wild
  · decide

/-- Reading media types is case-blind and round-trips: lowering a text never changes what it
reads as; what a text reads as has token type and subtype with no capital letter, is `*` only
over `*`, and reads back from its written form; and the declared type of a response is never a
wildcard. -/
theorem media_type_reading_laws :
    (∀ value, parse? (lower value) = parse? value) ∧
      (∀ value m, parse? value = some m → m.WellFormed ∧ parse? m.text = some m) ∧
      ∀ hs, (ofContentType hs).isWildcardType = false ∧
        (ofContentType hs).isWildcardSubtype = false :=
  ⟨parse?_lower, fun _ _ read => ⟨parse?_wellFormed read, parse?_text (parse?_wellFormed read)⟩,
    ofContentType_concrete⟩

/-- A capitalised type with parameters reads as its lowered essence, which reads back. -/
theorem media_type_reading_laws_html :
    parse? "Text/HTML; charset=utf-8" = some ⟨"text", "html"⟩ ∧
      (MediaType.WellFormed ⟨"text", "html"⟩ ∧ parse? "text/html" = some ⟨"text", "html"⟩) :=
  ⟨by decide, media_type_reading_laws.2.1 "Text/HTML; charset=utf-8" _ (by decide)⟩

end MediaType

end Media

end ResponseCache
