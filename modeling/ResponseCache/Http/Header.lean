import ResponseCache.Text.Ascii
/-!
# Header fields

A header name is a non-empty token of at most 65535 characters, stored with its ASCII letters
lowered, so names compare without regard to case. A header value is a list of bytes, each a
visible character, a space, a tab or a byte from 0x80 up; a value reads as text only when all its
bytes are visible ASCII characters, spaces or tabs.

A header list keeps its fields in the order they were appended. Lookups by name give the values
of that name in that order; `insert` replaces every field of a name by one.
-/

namespace ResponseCache
namespace Http

/-- The longest name a header field may have. -/
def HeaderName.maxLength : Nat := 65535

/-- Whether a text is spelled as a header name is kept: a non-empty token of at most `maxLength`
characters, with no ASCII capital letter. -/
def HeaderName.isLoweredToken (s : String) : Bool :=
  Text.isToken s && decide (s.length ≤ HeaderName.maxLength) && Text.lower s == s

/-- A header name: a non-empty token with its ASCII letters lowered. -/
@[ext]
structure HeaderName where
  /-- The lowered spelling. -/
  text : String
  /-- The spelling is a lowered token of at most `maxLength` characters. -/
  valid : HeaderName.isLoweredToken text = true
deriving DecidableEq, Repr

namespace HeaderName

instance : Hashable HeaderName := ⟨fun n => hash n.text⟩

theorem isLoweredToken_lower {s : String}
    (readable : (Text.isToken s && decide (s.length ≤ maxLength)) = true) :
    isLoweredToken (Text.lower s) = true := by
  simp only [isLoweredToken, Text.isToken_lower, Text.length_lower, Text.lower_lower,
    beq_self_eq_true, Bool.and_true]
  exact readable

/-- Reads a header name: a non-empty token of at most `maxLength` characters. -/
def ofText? (s : String) : Option HeaderName :=
  if readable : Text.isToken s && decide (s.length ≤ maxLength) then
    some ⟨Text.lower s, isLoweredToken_lower readable⟩
  else none

/-- Every header name reads back from its spelling. -/
@[simp]
theorem ofText?_text (n : HeaderName) : ofText? n.text = some n := by
  have valid := n.valid
  simp only [isLoweredToken, Bool.and_eq_true, beq_iff_eq] at valid
  obtain ⟨readable, lowered⟩ := valid
  rw [ofText?, dif_pos (by simp only [Bool.and_eq_true]; exact readable)]
  exact congrArg some (HeaderName.ext lowered)

/-- Orders names by their text. -/
def le (a b : HeaderName) : Bool := decide (a.text ≤ b.text)

/-- The `cache-control` name. -/
def cacheControl : HeaderName := ⟨"cache-control", by decide⟩
/-- The `etag` name. -/
def etag : HeaderName := ⟨"etag", by decide⟩
/-- The `vary` name. -/
def vary : HeaderName := ⟨"vary", by decide⟩
/-- The `content-type` name. -/
def contentType : HeaderName := ⟨"content-type", by decide⟩
/-- The `content-length` name. -/
def contentLength : HeaderName := ⟨"content-length", by decide⟩
/-- The `accept` name. -/
def accept : HeaderName := ⟨"accept", by decide⟩
/-- The `if-match` name. -/
def ifMatch : HeaderName := ⟨"if-match", by decide⟩
/-- The `if-none-match` name. -/
def ifNoneMatch : HeaderName := ⟨"if-none-match", by decide⟩
/-- The `connection` name. -/
def connection : HeaderName := ⟨"connection", by decide⟩
/-- The `transfer-encoding` name. -/
def transferEncoding : HeaderName := ⟨"transfer-encoding", by decide⟩

end HeaderName

/-- A header value as bytes. -/
structure HeaderValue where
  /-- The bytes of the value. -/
  bytes : List UInt8
deriving DecidableEq, Repr

namespace HeaderValue

/-- A byte allowed in a value: a tab, or anything from the space up except the delete control. -/
def isValueByte (b : UInt8) : Bool := (b ≥ 32 && b != 127) || b == 9

/-- A byte of a value that reads as text: a tab, or a visible ASCII character or space. -/
def isTextByte (b : UInt8) : Bool := b == 9 || (b ≥ 32 && b < 127)

/-- Reads a value from bytes, refusing control characters other than the tab. -/
def ofBytes? (bytes : List UInt8) : Option HeaderValue :=
  if bytes.all isValueByte then some ⟨bytes⟩ else none

/-- The value of a text. -/
def ofText (s : String) : HeaderValue := ⟨s.toUTF8.toList⟩

/-- The value as text, when every byte is a visible ASCII character, a space or a tab. -/
def text? (v : HeaderValue) : Option String :=
  if v.bytes.all isTextByte then some (String.ofList (v.bytes.map fun b => Char.ofNat b.toNat))
  else none

end HeaderValue

/-- Header fields in the order they were appended. -/
structure Headers where
  /-- The fields, earliest first. -/
  fields : List (HeaderName × HeaderValue) := []
deriving DecidableEq, Repr

namespace Headers

/-- No fields. -/
def empty : Headers := {}

/-- Appends one field after the others. -/
def append (hs : Headers) (name : HeaderName) (value : HeaderValue) : Headers :=
  ⟨hs.fields ++ [(name, value)]⟩

/-- Every value of a name, in order. -/
def getAll (hs : Headers) (name : HeaderName) : List HeaderValue :=
  (hs.fields.filter fun f => f.1 == name).map Prod.snd

/-- The first value of a name. -/
def get? (hs : Headers) (name : HeaderName) : Option HeaderValue := (hs.getAll name).head?

/-- Whether some field has this name. -/
def contains (hs : Headers) (name : HeaderName) : Bool := hs.fields.any fun f => f.1 == name

/-- Drops every field of a name. -/
def erase (hs : Headers) (name : HeaderName) : Headers :=
  ⟨hs.fields.filter fun f => f.1 != name⟩

/-- Replaces every field of a name by one field with this value. -/
def insert (hs : Headers) (name : HeaderName) (value : HeaderValue) : Headers :=
  (hs.erase name).append name value

/-- The values of a name that read as text, in order. -/
def texts (hs : Headers) (name : HeaderName) : List String :=
  (hs.getAll name).filterMap HeaderValue.text?

/-- The fields ordered by name; fields of one name keep their order. -/
def sorted (hs : Headers) : List (HeaderName × HeaderValue) :=
  hs.fields.mergeSort fun a b => a.1.le b.1

@[simp]
theorem getAll_append (hs : Headers) (name other : HeaderName) (value : HeaderValue) :
    (hs.append other value).getAll name =
      hs.getAll name ++ (if other = name then [value] else []) := by
  by_cases h : other = name <;> simp [append, getAll, List.filter_append, h]

@[simp]
theorem getAll_insert_self (hs : Headers) (name : HeaderName) (value : HeaderValue) :
    (hs.insert name value).getAll name = [value] := by
  rw [insert, getAll_append]
  simp [erase, getAll, List.filter_filter]

end Headers

end Http
end ResponseCache
