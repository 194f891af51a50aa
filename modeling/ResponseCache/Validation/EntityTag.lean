import ResponseCache.Text.Blank
import ResponseCache.Http.Header
import ResponseCache.Digest.Sha256
/-!
# Entity tags

An entity tag is an opaque value, strong or weak. On the wire a strong tag is the value in
double quotes and a weak one has `W/` before the quotes. Reading is lenient: blanks around the
token and inside after the weak mark are dropped, the weak mark may be written `w/`, and single
quotes serve as well as double ones; a token that is empty after all this is refused.

The main statement is that the wire form of a tag read from any text reads back as that tag:
the value a token normalizes to is a non-empty text that is its own trim, and the quoted form of
such a value, with or without the weak mark, reads back as exactly that value and mark.
-/

namespace ResponseCache
namespace Validation

/-- An entity tag. -/
structure EntityTag where
  /-- The opaque value, without quotes or weak mark. -/
  value : String
  /-- Whether the tag is weak. -/
  weak : Bool
deriving DecidableEq, Repr

namespace EntityTag

/-- A strong tag. -/
def strong (value : String) : EntityTag := ⟨value, false⟩

/-- A weak tag. -/
def weakTag (value : String) : EntityTag := ⟨value, true⟩

/-- The wire form: the value in double quotes, after `W/` when weak. -/
def header (t : EntityTag) : String :=
  (if t.weak then "W/" else "") ++ "\"" ++ t.value ++ "\""

/-- Whether a character list starts with the weak mark `W/` or `w/`. -/
def hasWeakMark : List Char → Bool
  | 'W' :: '/' :: _ => true
  | 'w' :: '/' :: _ => true
  | _ => false

/-- Drops the quotes around a token when it starts and ends with the same quote character and
has at least two bytes. -/
def unquote (cs : List Char) : List Char :=
  match cs with
  | c :: rest@(_ :: _) =>
    if (c = '"' ∨ c = Char.ofNat 39) ∧ rest.getLast? = some c then rest.dropLast else cs
  | _ => cs

/-- The opaque value of one tag token: blanks, weak mark and quotes removed; `none` when that
leaves nothing. -/
def normalize? (token : String) : Option String :=
  let tag := Text.trimList token.toList
  if tag.isEmpty then none
  else
    let tag := if hasWeakMark tag then Text.trimList (tag.drop 2) else tag
    let tag := Text.trimList (unquote tag)
    if tag.isEmpty then none else some (String.ofList tag)

/-- Reads one tag. -/
def parse? (value : String) : Option EntityTag :=
  let trimmed := Text.trimList value.toList
  (normalize? value).map fun v => ⟨v, hasWeakMark trimmed⟩

/-- The strong tag of a body: the hexadecimal text of the first 16 bytes of its SHA-256
digest. -/
def ofBody (body : List UInt8) : EntityTag := strong (Digest.hexOfBytes ((Digest.sha256 body).take 16))

/-- The tag in one header line, when the line reads as text and as a tag. -/
def ofLine (v : Http.HeaderValue) : Option EntityTag := v.text?.bind parse?

/-- The tag of the first ETag line. -/
def ofHeaders (hs : Http.Headers) : Option EntityTag := (hs.get? Http.HeaderName.etag).bind ofLine

example : parse? " W/\"v1\" " = some ⟨"v1", true⟩ ∧ parse? "'x'" = some ⟨"x", false⟩ ∧
    parse? "\"\"" = none ∧ parse? "\"" = some ⟨"\"", false⟩ := by decide

/-- A token in double quotes loses exactly those quotes. -/
theorem unquote_quoted (tag : List Char) : unquote ('"' :: (tag ++ ['"'])) = tag := by
  cases tag with
  | nil => simp [unquote]
  | cons c more =>
      have hlast : (more ++ ['"']).getLast? = some '"' := by simp [List.getLast?_append]
      have hdrop : (c :: (more ++ ['"'])).dropLast = c :: more := by
        rw [← List.cons_append, List.dropLast_concat]
      simp [unquote, List.getLast?_cons, hlast, hdrop]

/-- The characters of a wire form: the weak mark when weak, then the value in double quotes. -/
theorem toList_header (t : EntityTag) :
    t.header.toList = (if t.weak then ['W', '/'] else []) ++ '"' :: (t.value.toList ++ ['"']) := by
  cases t with
  | mk value weak => cases weak <;> simp [header, String.toList_append]

/-- A quoted token after a prefix that starts with no blank is its own trim. -/
theorem trimList_quoted (tag pre : List Char) (hpre : ∀ c ∈ pre.head?, Text.isBlank c = false) :
    Text.trimList (pre ++ '"' :: (tag ++ ['"'])) = pre ++ '"' :: (tag ++ ['"']) := by
  apply Text.trimList_eq_self
  · intro c hc
    cases pre with
    | nil =>
        simp only [List.nil_append, List.head?_cons, Option.mem_def, Option.some.injEq] at hc
        subst hc
        decide
    | cons d more => exact hpre c (by simpa using hc)
  · intro c hc
    have hlast : (pre ++ '"' :: (tag ++ ['"'])).getLast? = some '"' := by
      rw [← List.cons_append, ← List.append_assoc, List.getLast?_concat]
    rw [hlast] at hc
    simp only [Option.mem_def, Option.some.injEq] at hc
    subst hc
    decide

/-- The wire form of a tag whose value is a non-empty list of characters that is its own trim
reads back as that tag. -/
theorem parse?_header_of_trimmed (tag : List Char) (weak : Bool)
    (htrim : Text.trimList tag = tag) (hne : tag ≠ []) :
    parse? (⟨String.ofList tag, weak⟩ : EntityTag).header = some ⟨String.ofList tag, weak⟩ := by
  have hquoted := trimList_quoted tag [] (by simp)
  simp only [List.nil_append] at hquoted
  cases weak with
  | false =>
      simp [parse?, normalize?, toList_header, String.toList_ofList, hquoted, hasWeakMark,
        unquote_quoted, htrim, hne]
  | true =>
      have hmarked := trimList_quoted tag ['W', '/'] (by
        intro c hc
        simp only [List.head?_cons, Option.mem_def, Option.some.injEq] at hc
        subst hc
        decide)
      simp only [List.cons_append, List.nil_append] at hmarked
      simp [parse?, normalize?, toList_header, String.toList_ofList, hmarked, hquoted,
        hasWeakMark, unquote_quoted, htrim, hne]

/-- A list's trim, given back when it is not empty, is a non-empty text that is its own trim. -/
theorem exists_trimmed_of_eq_some {x : List Char} {v : String}
    (h : (if (Text.trimList x).isEmpty = true then none
      else some (String.ofList (Text.trimList x))) = some v) :
    ∃ tag, v = String.ofList tag ∧ Text.trimList tag = tag ∧ tag ≠ [] := by
  split at h
  · simp at h
  · rename_i hne
    simp only [Option.some.injEq] at h
    exact ⟨_, h.symm, Text.trimList_trimList _, by simpa using hne⟩

/-- A value that normalizing gives is a non-empty list of characters that is its own trim. -/
theorem normalize?_eq_some {t v : String} (h : normalize? t = some v) :
    ∃ tag, v = String.ofList tag ∧ Text.trimList tag = tag ∧ tag ≠ [] := by
  dsimp only [normalize?] at h
  split at h
  · simp at h
  · exact exists_trimmed_of_eq_some h

end EntityTag

end Validation
end ResponseCache
