/-!
# Request targets

A request target is read byte by byte. A target of one byte is `/`, `*`, or an authority alone.
A target starting with `/` is a path with an optional query. Any other target may start with a
scheme (`http://` and `https://` in any case, or up to 64 scheme characters before `://`: ASCII
letters and digits, `+`, `-`, `.` and `~`), followed by an authority and, when a scheme was
given, a path and query. Without a scheme the whole target must be an authority; after a scheme
the rest must not be empty.

An authority allows the URI characters up to the first `/`, `?` or `#`, at most eight colons
(one outside brackets), balanced brackets, and a percent sign only inside the user information.
A path allows the visible characters other than `#`, `<`, `>`, `` ` `` and `?`, which opens the
query; a query allows the visible characters other than `"`, `#`, `<` and `>`. Both allow every
byte from 0x80 up but not the delete character 0x7F, and `#` starts a fragment, which is
dropped.

The key of a target is its path and query; a target without a path has the key `/` when it has a
scheme, and the empty key when it is an authority alone.
-/

namespace ResponseCache
namespace Http

/-- Why a request target was refused. -/
inductive UriError where
  /-- The target is empty. -/
  | empty
  /-- The target is longer than a target may be. -/
  | tooLong
  /-- A byte that may not stand where it stands. -/
  | invalidChar
  /-- The authority is malformed. -/
  | invalidAuthority
  /-- The parts do not make a target. -/
  | invalidFormat
  /-- The scheme is longer than a scheme may be. -/
  | schemeTooLong
deriving DecidableEq, Repr

/-- The text of a refusal. -/
def UriError.message : UriError → String
  | .empty => "empty string"
  | .tooLong => "uri too long"
  | .invalidChar => "invalid uri character"
  | .invalidAuthority => "invalid authority"
  | .invalidFormat => "invalid format"
  | .schemeTooLong => "scheme too long"

/-- A parsed request target. -/
structure Uri where
  /-- Whether a scheme was given. -/
  hasScheme : Bool
  /-- The authority, possibly empty. -/
  authority : List UInt8
  /-- The path and query as written, without the fragment; possibly empty. -/
  pathAndQuery : List UInt8
  /-- Where the query mark stands in `pathAndQuery`, if there is one. -/
  queryAt : Option Nat
deriving DecidableEq, Repr

namespace Uri

/-- The longest target accepted, in bytes. -/
def maxLength : Nat := 65534

/-- The longest scheme accepted. -/
def maxSchemeLength : Nat := 64

/-- A byte that may appear in a scheme. -/
def isSchemeByte (b : UInt8) : Bool :=
  (b ≥ 48 && b ≤ 57) || (b ≥ 65 && b ≤ 90) || (b ≥ 97 && b ≤ 122) || b == 43 || b == 45 ||
    b == 46 || b == 126

/-- The characters allowed in an authority, and the delimiters that end it: the unreserved and
sub-delimiter characters, `#`, `/`, `:`, `?`, `@`, `[` and `]`. -/
def isUriByte (b : UInt8) : Bool :=
  b == 33 || (b ≥ 35 && b ≤ 36) || (b ≥ 38 && b ≤ 59) || b == 61 || (b ≥ 63 && b ≤ 91) ||
    b == 93 || b == 95 || (b ≥ 97 && b ≤ 122) || b == 126

/-- The bytes allowed in a path besides the query mark and the fragment mark. -/
def isPathByte (b : UInt8) : Bool :=
  b == 33 || b == 34 || (b ≥ 36 && b ≤ 59) || b == 61 || (b ≥ 64 && b ≤ 95) ||
    (b ≥ 97 && b ≤ 126) || b ≥ 128

/-- The bytes allowed in a query besides the fragment mark. -/
def isQueryByte (b : UInt8) : Bool :=
  b == 33 || (b ≥ 36 && b ≤ 59) || b == 61 || (b ≥ 63 && b ≤ 126) || b ≥ 128

/-- The ASCII lowering of a byte. -/
def lowerByte (b : UInt8) : UInt8 := if b ≥ 65 && b ≤ 90 then b + 32 else b

/-- Whether `pre` is a prefix of `bs` once ASCII letters are lowered. -/
def startsWithFolded (pre bs : List UInt8) : Bool :=
  pre.length ≤ bs.length && (bs.take pre.length).map lowerByte == pre

/-- How a target begins. -/
inductive SchemeStart where
  /-- No scheme. -/
  | none
  /-- A scheme whose text with its `://` takes this many bytes. -/
  | given (length : Nat)
deriving DecidableEq, Repr

/-- Looks for a scheme of scheme characters ended by `://`, scanning from position `i`. -/
def scanScheme (whole : List UInt8) (i : Nat) : List UInt8 → Except UriError SchemeStart
  | [] => .ok .none
  | b :: rest =>
    if b == 58 then
      if whole.length < i + 3 then .ok .none
      else if (whole.drop (i + 1)).take 2 != [47, 47] then .ok .none
      else if i > maxSchemeLength then .error .schemeTooLong
      else .ok (.given (i + 3))
    else if isSchemeByte b then scanScheme whole (i + 1) rest
    else .ok .none

/-- The scheme at the start of a target. -/
def schemeOf (bs : List UInt8) : Except UriError SchemeStart :=
  if startsWithFolded "http://".toUTF8.toList bs then .ok (.given 7)
  else if startsWithFolded "https://".toUTF8.toList bs then .ok (.given 8)
  else if bs.length > 3 then scanScheme bs 0 bs
  else .ok .none

/-- What the authority scan has seen so far. -/
structure AuthorityScan where
  /-- How many colons came since the last `@` or `]`. -/
  colons : Nat := 0
  /-- Whether a `[` came. -/
  openBracket : Bool := false
  /-- Whether a `]` came. -/
  closeBracket : Bool := false
  /-- Whether a `%` came since the last `@` or `]`. -/
  percent : Bool := false
  /-- Where the last `@` stood. -/
  atSign : Option Nat := none

/-- Scans an authority from position `i`, giving the position where it ends. -/
def scanAuthority (st : AuthorityScan) (i : Nat) : List UInt8 → Except UriError (AuthorityScan × Nat)
  | [] => .ok (st, i)
  | b :: rest =>
    if b == 47 || b == 63 || b == 35 then .ok (st, i)
    else if b == 58 then
      if st.colons ≥ 8 then .error .invalidAuthority
      else scanAuthority { st with colons := st.colons + 1 } (i + 1) rest
    else if b == 91 then
      if st.percent || st.openBracket then .error .invalidAuthority
      else scanAuthority { st with openBracket := true } (i + 1) rest
    else if b == 93 then
      if !st.openBracket || st.closeBracket then .error .invalidAuthority
      else scanAuthority { st with closeBracket := true, colons := 0, percent := false } (i + 1) rest
    else if b == 64 then
      scanAuthority { st with atSign := some i, colons := 0, percent := false } (i + 1) rest
    else if b == 37 then scanAuthority { st with percent := true } (i + 1) rest
    else if isUriByte b then scanAuthority st (i + 1) rest
    else .error .invalidChar

/-- The length of the authority at the front of `bs`, checked as a whole. -/
def authorityEnd (bs : List UInt8) : Except UriError Nat := do
  let (st, stop) ← scanAuthority {} 0 bs
  if st.openBracket != st.closeBracket then throw .invalidAuthority
  if st.colons > 1 then throw .invalidAuthority
  if stop > 0 && st.atSign == some (stop - 1) then throw .invalidAuthority
  if st.percent then throw .invalidAuthority
  return stop

/-- Scans a query from position `i`: the position of a fragment mark, if any. -/
def scanQuery (i : Nat) : List UInt8 → Except UriError (Option Nat)
  | [] => .ok none
  | b :: rest =>
    if b == 35 then .ok (some i)
    else if isQueryByte b then scanQuery (i + 1) rest
    else .error .invalidChar

/-- Scans a path from position `i`: the positions of the query mark and of the fragment mark. -/
def scanPath (i : Nat) : List UInt8 → Except UriError (Option Nat × Option Nat)
  | [] => .ok (none, none)
  | b :: rest =>
    if b == 63 then do
      let frag ← scanQuery (i + 1) rest
      return (some i, frag)
    else if b == 35 then .ok (none, some i)
    else if isPathByte b then scanPath (i + 1) rest
    else .error .invalidChar

/-- Reads a path and query, dropping a fragment. -/
def pathAndQueryOf (bs : List UInt8) : Except UriError (List UInt8 × Option Nat) := do
  let (query, frag) ← scanPath 0 bs
  let data := match frag with
    | some i => bs.take i
    | none => bs
  return (data, query)

/-- Reads a target with at least two bytes that does not start with `/`. -/
def parseFull (bs : List UInt8) : Except UriError Uri := do
  match ← schemeOf bs with
  | .none =>
    let stop ← authorityEnd bs
    if stop != bs.length then throw .invalidFormat
    return ⟨false, bs, [], none⟩
  | .given skip =>
    let rest := bs.drop skip
    if rest.isEmpty then throw .empty
    let stop ← authorityEnd rest
    if stop == 0 then throw .invalidFormat
    let (data, query) ← pathAndQueryOf (rest.drop stop)
    return ⟨true, rest.take stop, data, query⟩

/-- Reads a request target from its bytes. -/
def ofBytes (bs : List UInt8) : Except UriError Uri :=
  if bs.length > maxLength then .error .tooLong
  else match bs with
    | [] => .error .empty
    | [47] => .ok ⟨false, [], [47], none⟩
    | [42] => .ok ⟨false, [], [42], none⟩
    | [b] => do
      let stop ← authorityEnd [b]
      if stop != 1 then throw .invalidChar
      return ⟨false, [b], [], none⟩
    | 47 :: rest => do
      let (data, query) ← pathAndQueryOf (47 :: rest)
      return ⟨false, [], data, query⟩
    | _ => parseFull bs

/-- Reads a request target from its text. -/
def parse (s : String) : Except UriError Uri := ofBytes s.toUTF8.toList

/-- The text of bytes that came from a text, byte by byte as UTF-8. -/
def textOf (bs : List UInt8) : String :=
  (String.fromUTF8? (ByteArray.mk bs.toArray)).getD ""

/-- The path: the text before the query mark, or `/` when that is empty; the empty text for an
authority alone. -/
def path (u : Uri) : String :=
  if u.pathAndQuery.isEmpty && !u.hasScheme then ""
  else
    let p := match u.queryAt with
      | some i => u.pathAndQuery.take i
      | none => u.pathAndQuery
    if p.isEmpty then "/" else textOf p

/-- The key under which the variants of a resource are stored: the path and query as written,
or `/` when a target with a scheme has neither; an authority alone gives its path. -/
def cacheKey (u : Uri) : String :=
  if u.hasScheme || u.authority.isEmpty then
    if u.pathAndQuery.isEmpty then "/" else textOf u.pathAndQuery
  else u.path

end Uri

end Http
end ResponseCache
