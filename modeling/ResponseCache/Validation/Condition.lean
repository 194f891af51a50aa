import ResponseCache.Validation.EntityTag
/-!
# Request conditions

If-None-Match and If-Match carry either `*` or a list of entity tags. All lines of one header
that read as text are joined with commas; tokens that do not read as tags are skipped, a `*`
token makes the condition match anything, and a header with no tag left is absent.

If-None-Match compares weakly (values only); If-Match compares strongly, so a weak request tag
never satisfies it.
-/

namespace ResponseCache
namespace Validation

/-- A parsed If-None-Match or If-Match header. -/
inductive TagCondition where
  /-- `*`: matches any current representation. -/
  | any
  /-- The listed tags, in order. -/
  | tags (list : List EntityTag)
deriving DecidableEq, Repr

namespace TagCondition

/-- Reads the tokens of a condition, from the front: `none` for no usable token, `any` as soon
as a `*` token comes. -/
def ofTokens : List String → Option TagCondition
  | [] => none
  | token :: rest =>
    let token := Text.trim token
    if token.isEmpty then ofTokens rest
    else if token == "*" then some .any
    else
      match EntityTag.parse? token, ofTokens rest with
      | some t, some (.tags ts) => some (.tags (t :: ts))
      | some t, none => some (.tags [t])
      | _, some .any => some .any
      | none, r => r

/-- Reads a condition header value. -/
def parse? (value : String) : Option TagCondition :=
  let value := Text.trim value
  if value.isEmpty then none else ofTokens (Text.splitAll ',' value)

/-- The condition of every line of a header that reads as text, each trimmed, joined by commas. -/
def ofHeaders (hs : Http.Headers) (name : Http.HeaderName) : Option TagCondition :=
  let joined := (hs.texts name).foldl (fun acc line =>
    (if acc.isEmpty then acc else acc ++ ",") ++ Text.trim line) ""
  parse? joined

/-- Weak comparison: some listed tag has this value. -/
def matchesWeak (c : TagCondition) (etag : String) : Bool :=
  match c with
  | .any => true
  | .tags ts => ts.any fun t => t.value == etag

/-- Strong comparison: some listed strong tag has this value. -/
def matchesStrong (c : TagCondition) (etag : String) : Bool :=
  match c with
  | .any => true
  | .tags ts => ts.any fun t => !t.weak && t.value == etag

theorem matchesWeak_of_matchesStrong {c : TagCondition} {etag : String}
    (h : c.matchesStrong etag = true) : c.matchesWeak etag = true := by
  cases c with
  | any => rfl
  | tags ts =>
    simp only [matchesStrong, List.any_eq_true, Bool.and_eq_true, Bool.not_eq_true'] at h
    obtain ⟨t, ht, _, hv⟩ := h
    simp only [matchesWeak, List.any_eq_true]
    exact ⟨t, ht, hv⟩

end TagCondition

/-- The validators a request carries. -/
structure Conditions where
  /-- The If-None-Match condition, if any. -/
  ifNoneMatch : Option TagCondition := none
  /-- The If-Match condition, if any. -/
  ifMatch : Option TagCondition := none
deriving DecidableEq, Repr

namespace Conditions

/-- Reads both conditions of a request. -/
def ofHeaders (hs : Http.Headers) : Conditions :=
  ⟨TagCondition.ofHeaders hs Http.HeaderName.ifNoneMatch,
   TagCondition.ofHeaders hs Http.HeaderName.ifMatch⟩

/-- If-None-Match is present and matches this tag value weakly. -/
def noneMatch (c : Conditions) (etag : String) : Bool :=
  match c.ifNoneMatch with
  | some cond => cond.matchesWeak etag
  | none => false

/-- If-Match is present and does not match this tag value strongly. -/
def matchFails (c : Conditions) (etag : String) : Bool :=
  match c.ifMatch with
  | some cond => !cond.matchesStrong etag
  | none => false

end Conditions

end Validation
end ResponseCache
