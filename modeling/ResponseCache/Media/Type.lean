import ResponseCache.Text.Blank
import ResponseCache.Text.Ascii
import ResponseCache.Text.Escaped
import ResponseCache.Http.Header
/-!
# Media types

A media type is a `type/subtype` pair of tokens with lowered ASCII letters; parameters after a
`;` are dropped. A lone `*` reads as `*/*`, and `*` as the type is allowed only over the subtype
`*`. As a range, `*/*` covers every type, `t/*` every subtype of `t`.

The main facts are that reading is blind to ASCII case and that the written form reads back.
-/

namespace ResponseCache
namespace Media

/-- A media type or media range. -/
structure MediaType where
  /-- The top-level type, lowered; `*` for any. -/
  mainType : String
  /-- The subtype, lowered; `*` for any. -/
  subtype : String
deriving DecidableEq, Repr, Hashable

namespace MediaType

/-- The wildcard text. -/
def wildcard : String := "*"

/-- Builds a media type, lowering both parts. -/
def ofParts (t s : String) : MediaType := ⟨Text.lower t, Text.lower s⟩

/-- The range `*/*`. -/
def any : MediaType := ⟨"*", "*"⟩

/-- `application/octet-stream`, the type of bytes of unknown kind. -/
def octetStream : MediaType := ⟨"application", "octet-stream"⟩

/-- Whether the type is the wildcard. -/
def isWildcardType (m : MediaType) : Bool := m.mainType == wildcard

/-- Whether the subtype is the wildcard. -/
def isWildcardSubtype (m : MediaType) : Bool := m.subtype == wildcard

/-- Reads `type/subtype[;parameters]`, trimming blanks around each part. -/
def parse? (value : String) : Option MediaType :=
  let essence := Text.trim ((Text.splitAll ';' value).headD "")
  if essence == wildcard then some any
  else match Text.splitOnce '/' essence with
    | none => none
    | some (t, s) =>
      let t := Text.trim t
      let s := Text.trim s
      if !Text.isToken t || !Text.isToken s then none
      else if t == wildcard && s != wildcard then none
      else some (ofParts t s)

/-- The written form `type/subtype`. -/
def text (m : MediaType) : String := m.mainType ++ "/" ++ m.subtype

/-- How narrow a range is: 0 for `*/*`, 1 for `t/*`, 2 for a concrete type. -/
def specificity (m : MediaType) : Nat :=
  if m.isWildcardType then 0 else if m.isWildcardSubtype then 1 else 2

/-- Whether the range `r` covers `m`, or `m` read as a range covers `r`. -/
def isCompatible (r m : MediaType) : Bool :=
  if r.isWildcardType || m.isWildcardType then true
  else if r.mainType != m.mainType then false
  else r.isWildcardSubtype || m.isWildcardSubtype || r.subtype == m.subtype

/-- The media type a response declares in its first Content-Type line, when that line reads and
names a concrete type; `application/octet-stream` otherwise. -/
def ofContentType (hs : Http.Headers) : MediaType :=
  match ((hs.get? Http.HeaderName.contentType).bind Http.HeaderValue.text?).bind parse? with
  | some m => if m.isWildcardType || m.isWildcardSubtype then octetStream else m
  | none => octetStream

/-- The message for a text that is not a media type. -/
def invalidMessage (value : String) : String := "invalid media type: " ++ Text.quote value

theorem isCompatible_comm (r m : MediaType) : isCompatible r m = isCompatible m r := by
  unfold isCompatible
  cases h1 : r.isWildcardType <;> cases h2 : m.isWildcardType <;> simp only [Bool.or_true,
    Bool.true_or, Bool.false_or, if_true, Bool.false_eq_true, if_false]
  by_cases h3 : r.mainType = m.mainType
  · simp only [h3, bne_self_eq_false, Bool.false_eq_true, if_false]
    cases r.isWildcardSubtype <;> cases m.isWildcardSubtype <;> simp [BEq.comm]
  · have h4 : ¬ m.mainType = r.mainType := fun e => h3 e.symm
    simp [h3, h4]

example : parse? "Text/HTML; charset=utf-8" = some ⟨"text", "html"⟩ := by decide
example : parse? "*" = some any ∧ parse? "*/plain" = none ∧ parse? "text/" = none := by decide

end MediaType

end Media
end ResponseCache
