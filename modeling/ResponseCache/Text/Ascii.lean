/-!
# ASCII case, tokens and decimal numerals

Case folding here touches the ASCII letters only; every other character is left as it is.
A token character is one of the characters RFC 9110 allows in a token. Decimal numerals are read
as unsigned words: an optional plus sign, then one or more ASCII digits, with a value below a
stated bound.
-/

namespace ResponseCache
namespace Text

/-- Lowers an ASCII capital letter and keeps every other character. -/
def lowerChar (c : Char) : Char :=
  if 'A' ≤ c ∧ c ≤ 'Z' then Char.ofNat (c.toNat + 32) else c

/-- Lowers the ASCII capital letters of a text. -/
def lower (s : String) : String := String.ofList (s.toList.map lowerChar)

/-- Two texts are equal once their ASCII letters are folded to one case. -/
def eqIgnoreCase (a b : String) : Bool := lower a == lower b

/-- The punctuation allowed in an RFC 9110 token, by code point:
``!#$%&'*+-.^_`|~``. -/
def tokenPunctuation : List Nat := [33, 35, 36, 37, 38, 39, 42, 43, 45, 46, 94, 95, 96, 124, 126]

/-- A character allowed in an RFC 9110 token: an ASCII letter or digit, or token punctuation. -/
def isTokenChar (c : Char) : Bool :=
  c.isAlphanum || tokenPunctuation.contains c.toNat

/-- A non-empty text of token characters. -/
def isToken (s : String) : Bool := !s.isEmpty && s.toList.all isTokenChar

/-- The value of a list of ASCII digits, most significant first. -/
def digitsValue (cs : List Char) : Nat :=
  cs.foldl (fun acc c => acc * 10 + (c.toNat - 48)) 0

/-- Reads an unsigned decimal numeral below `bound`: an optional plus sign and one or more
ASCII digits. -/
def readNatBelow (bound : Nat) (s : String) : Option Nat :=
  let digits := match s.toList with
    | '+' :: rest => rest
    | cs => cs
  if digits.isEmpty || !digits.all Char.isDigit then none
  else
    let n := digitsValue digits
    if n < bound then some n else none

/-- The largest value of a 64-bit unsigned word, plus one. -/
def wordBound : Nat := 18446744073709551616

/-- The largest value of a 64-bit unsigned word. -/
def wordMax : Nat := wordBound - 1

/-- Reads a 64-bit unsigned decimal numeral. -/
def readWord (s : String) : Option Nat := readNatBelow wordBound s

/-- Reads a 16-bit unsigned decimal numeral. -/
def readShort (s : String) : Option Nat := readNatBelow 65536 s

/-- Splits a character list at the first occurrence of `sep`, dropping it. -/
def splitOnceList (sep : Char) : List Char → Option (List Char × List Char)
  | [] => none
  | c :: rest =>
    if c = sep then some ([], rest)
    else (splitOnceList sep rest).map fun (a, b) => (c :: a, b)

/-- Splits a text at the first occurrence of `sep`, dropping it. -/
def splitOnce (sep : Char) (s : String) : Option (String × String) :=
  (splitOnceList sep s.toList).map fun (a, b) => (String.ofList a, String.ofList b)

/-- Splits a text at every occurrence of `sep`; the pieces keep their order and empty pieces are
kept. -/
def splitAll (sep : Char) (s : String) : List String :=
  (s.toList.splitOn sep).map String.ofList

theorem splitOnceList_append (sep : Char) (a b : List Char) (h : sep ∉ a) :
    splitOnceList sep (a ++ sep :: b) = some (a, b) := by
  induction a with
  | nil => simp [splitOnceList]
  | cons c rest ih =>
    have hc : c ≠ sep := fun e => h (e ▸ List.mem_cons_self)
    have hr : sep ∉ rest := fun m => h (List.mem_cons_of_mem c m)
    simp [splitOnceList, hc, ih hr]

theorem toNat_lowerChar (c : Char) :
    (lowerChar c).toNat = if 65 ≤ c.toNat ∧ c.toNat ≤ 90 then c.toNat + 32 else c.toNat := by
  have capital : ('A' ≤ c ∧ c ≤ 'Z') ↔ (65 ≤ c.toNat ∧ c.toNat ≤ 90) := by
    simp only [Char.le_def, UInt32.le_iff_toNat_le]
    rfl
  unfold lowerChar
  by_cases upper : 65 ≤ c.toNat ∧ c.toNat ≤ 90
  · rw [if_pos (capital.mpr upper), if_pos upper, Char.ofNat, dif_pos (by omega)]
    rfl
  · rw [if_neg (fun letter => upper (capital.mp letter)), if_neg upper]

theorem lowerChar_of_not_upper {c : Char} (upper : ¬(65 ≤ c.toNat ∧ c.toNat ≤ 90)) :
    lowerChar c = c := by
  apply Char.toNat_inj.mp
  rw [toNat_lowerChar, if_neg upper]

theorem lowerChar_lowerChar (c : Char) : lowerChar (lowerChar c) = lowerChar c := by
  apply Char.toNat_inj.mp
  rw [toNat_lowerChar, toNat_lowerChar c]
  split <;> (try split) <;> omega

theorem isTokenChar_lowerChar (c : Char) : isTokenChar (lowerChar c) = isTokenChar c := by
  by_cases upper : 65 ≤ c.toNat ∧ c.toNat ≤ 90
  · have lowered := toNat_lowerChar c
    rw [if_pos upper] at lowered
    have letter : ∀ d : Char,
        (65 ≤ d.toNat ∧ d.toNat ≤ 90) ∨ (97 ≤ d.toNat ∧ d.toNat ≤ 122) →
          isTokenChar d = true := by
      intro d range
      have letterBits : (d.isUpper || d.isLower) =
          (decide (d.val ≥ 'A'.val ∧ d.val ≤ 'Z'.val) ||
            (decide (d.val ≥ 'a'.val) && decide (d.val ≤ 'z'.val))) := rfl
      have alpha : (d.isUpper || d.isLower) = true := by
        rw [letterBits]
        simp only [Bool.or_eq_true, Bool.and_eq_true, decide_eq_true_eq, UInt32.le_iff_toNat_le,
          ge_iff_le]
        exact range
      show ((d.isUpper || d.isLower) || d.isDigit || tokenPunctuation.contains d.toNat) = true
      rw [alpha]
      rfl
    rw [letter _ (.inr (by omega)), letter _ (.inl upper)]
  · rw [lowerChar_of_not_upper upper]

theorem toList_lower (s : String) : (lower s).toList = s.toList.map lowerChar :=
  String.toList_ofList

theorem lower_lower (s : String) : lower (lower s) = lower s := by
  rw [lower, toList_lower, List.map_map]
  congr 1
  exact List.map_congr_left fun c _ => lowerChar_lowerChar c

theorem length_lower (s : String) : (lower s).length = s.length := by
  rw [← String.length_toList, toList_lower, List.length_map, String.length_toList]

theorem isEmpty_lower (s : String) : (lower s).isEmpty = s.isEmpty := by
  apply Bool.eq_iff_iff.mpr
  rw [String.isEmpty_iff, String.isEmpty_iff, ← String.toList_eq_nil_iff,
    ← String.toList_eq_nil_iff, toList_lower, List.map_eq_nil_iff]

theorem isToken_lower (s : String) : isToken (lower s) = isToken s := by
  have same : isTokenChar ∘ lowerChar = isTokenChar := funext isTokenChar_lowerChar
  rw [isToken, isToken, isEmpty_lower, toList_lower, List.all_map, same]

example : readWord "+12" = some 12 ∧ readWord "" = none ∧ readWord "+" = none ∧
    readWord "18446744073709551615" = some 18446744073709551615 ∧
    readWord "18446744073709551616" = none ∧ readWord "-0" = none := by decide

end Text
end ResponseCache
