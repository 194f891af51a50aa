import ResponseCache.Media.Type
import ResponseCache.Http.Header
/-!
# Accept headers and content negotiation

An Accept header is a comma-separated list of media ranges, each with an optional quality
`q` in thousandths (0 to 1000, 1000 when absent). Elements that do not read are dropped, and a
header with no usable element accepts anything at full quality.

The preference for a media type comes from the compatible ranges: the most specific of them
decides, and a quality of 0 refuses the type. Negotiation picks, among the available types, the
first with the greatest preference, ordered by quality and then specificity.
-/

namespace ResponseCache
namespace Media

/-- The greatest quality, in thousandths. -/
def maxQuality : Nat := 1000

/-- Reads an RFC 9110 quality value in thousandths: `0` with up to three decimals, or `1` with
up to three zeros. -/
def parseQuality? (value : String) : Option Nat :=
  let (int, frac) := (Text.splitOnce '.' value).getD (value, "")
  if frac.utf8ByteSize > 3 || !frac.toList.all Char.isDigit then none
  else if int == "0" then
    some (Text.digitsValue (frac.toList ++ List.replicate (3 - frac.length) '0'))
  else if int == "1" && frac.toList.all (· == '0') then some maxQuality
  else none

/-- One element of an Accept header. -/
structure MediaRange where
  /-- The range of media types. -/
  media : MediaType
  /-- The quality, in thousandths. -/
  quality : Nat
deriving DecidableEq, Repr

/-- The quality set by the parameters of an element: the last `q` parameter decides, and one that
does not read spoils the element. -/
def qualityOfParams (params : List String) : Option Nat :=
  params.foldl (fun acc param =>
    acc.bind fun q =>
      match Text.splitOnce '=' param with
      | none => some q
      | some (name, value) =>
        if Text.eqIgnoreCase (Text.trim name) "q" then parseQuality? (Text.trim value) else some q)
    (some maxQuality)

namespace MediaRange

/-- Reads one element: a media type, then `;`-separated parameters. -/
def parse? (element : String) : Option MediaRange :=
  match Text.splitAll ';' element with
  | [] => none
  | first :: params => do
    let media ← MediaType.parse? first
    let q ← qualityOfParams params
    return ⟨media, min q maxQuality⟩

end MediaRange

/-- The rank of a media type against an Accept header. -/
structure Preference where
  /-- The quality of the deciding range. -/
  quality : Nat
  /-- The specificity of the deciding range. -/
  specificity : Nat
deriving DecidableEq, Repr

/-- Preferences are ordered by quality, then by specificity. -/
def Preference.lt (a b : Preference) : Bool :=
  a.quality < b.quality || (a.quality == b.quality && a.specificity < b.specificity)

/-- A parsed Accept header. -/
structure Accept where
  /-- The usable elements, in order. -/
  ranges : List MediaRange
deriving DecidableEq, Repr

namespace Accept

/-- Accepts anything at full quality. -/
def any : Accept := ⟨[⟨MediaType.any, maxQuality⟩]⟩

/-- Reads a header value; elements that do not read are dropped, and with none left the header
accepts anything. -/
def parse (value : String) : Accept :=
  let ranges := ((Text.splitAll ',' value).map Text.trim).filter (!·.isEmpty)
    |>.filterMap MediaRange.parse?
  if ranges.isEmpty then any else ⟨ranges⟩

/-- Combines every Accept line of a request that reads as text. -/
def ofHeaders (hs : Http.Headers) : Accept :=
  match hs.texts Http.HeaderName.accept with
  | [] => any
  | lines => parse (String.intercalate "," lines)

/-- The highest quality of any range, 0 for none. -/
def topQuality (a : Accept) : Nat := a.ranges.foldl (fun q r => max q r.quality) 0

/-- Of two candidate preferences, the one with the greater (specificity, quality) pair; the
later wins a tie. -/
def keepBetter (best : Option Preference) (p : Preference) : Option Preference :=
  match best with
  | none => some p
  | some b =>
    if p.specificity > b.specificity ||
        (p.specificity == b.specificity && p.quality ≥ b.quality) then some p
    else some b

/-- How much the header wants a media type: the most specific compatible range decides, and
`none` when no range is compatible or the deciding one has quality 0. -/
def preference (a : Accept) (m : MediaType) : Option Preference :=
  let best := (a.ranges.filter fun r => r.media.isCompatible m).foldl
    (fun best r => keepBetter best ⟨r.quality, r.media.specificity⟩) none
  best.filter fun p => p.quality > 0

/-- Picks the first available type with the greatest preference, with its position. -/
def negotiate (a : Accept) (available : List MediaType) : Option (Nat × MediaType) :=
  let step := fun (best : Option (Nat × MediaType × Preference)) (im : Nat × MediaType) =>
    match a.preference im.2 with
    | none => best
    | some p =>
      match best with
      | none => some (im.1, im.2, p)
      | some (_, _, cur) => if cur.lt p then some (im.1, im.2, p) else best
  ((available.zipIdx.map fun (m, i) => (i, m)).foldl step none).map fun (i, m, _) => (i, m)

example : (parse "text/html;q=0.5, */*;q=0.1").ranges =
    [⟨⟨"text", "html"⟩, 500⟩, ⟨MediaType.any, 100⟩] := by decide

end Accept

end Media
end ResponseCache
