import ResponseCache.Text.CaseMap
import ResponseCache.Text.Cased
/-!
# Lower case of texts

A text is lowered character by character with the full lower-case mapping of Unicode. The
capital sigma becomes the final small sigma when it ends a word, that is when a cased character
stands before it and none after it, case-ignorable characters skipped on both sides; otherwise
it becomes the small sigma.
-/

namespace ResponseCache
namespace Text

/-- Whether the first character that is not case-ignorable is cased. -/
def casedPastIgnorable (cs : List Char) : Bool :=
  match cs.dropWhile isCaseIgnorable with
  | c :: _ => isCased c
  | [] => false

/-- The capital sigma. -/
def capitalSigma : Char := Char.ofNat 0x3A3

/-- The small sigma for a capital sigma between `before` (nearest first) and `after`: the final
form when a cased character comes before and none after. -/
def lowerSigma (before after : List Char) : Char :=
  if casedPastIgnorable before && !casedPastIgnorable after then Char.ofNat 0x3C2
  else Char.ofNat 0x3C3

/-- Lowers the characters of `rest`; `before` holds those already passed, nearest first. -/
def lowerWithin (before : List Char) : List Char → List Char
  | [] => []
  | c :: after =>
    (if c = capitalSigma then [lowerSigma before after] else lowerFull c) ++
      lowerWithin (c :: before) after

/-- The lower-case form of a text. -/
def lowerUnicode (s : String) : String := String.ofList (lowerWithin [] s.toList)

end Text
end ResponseCache
