/-!
# Blank characters and trimming

The blank characters are those of the Unicode `White_Space` property: the ASCII tab, line feed,
vertical tab, form feed, carriage return and space, the next-line control, the no-break spaces
and the typographic spaces of the General Punctuation block, the line and paragraph separators,
and the ideographic space. Trimming removes them from both ends of a text and nowhere else.

The small lemmas here say that dropping leading blanks leaves a list that starts with no blank,
that a trimmed list starts and ends with no blank, and that trimming twice is trimming once.
-/

namespace ResponseCache
namespace Text

/-- A character of the Unicode `White_Space` property. -/
def isBlank (c : Char) : Bool :=
  let n := c.toNat
  (9 ≤ n && n ≤ 13) || n == 32 || n == 0x85 || n == 0xA0 || n == 0x1680 ||
    (0x2000 ≤ n && n ≤ 0x200A) || n == 0x2028 || n == 0x2029 || n == 0x202F ||
    n == 0x205F || n == 0x3000

/-- Every character that core counts as whitespace is blank. -/
theorem isBlank_of_isWhitespace {c : Char} (h : c.isWhitespace = true) : isBlank c = true := by
  simp only [Char.isWhitespace, Bool.or_eq_true, decide_eq_true_eq] at h
  simp only [isBlank, Bool.or_eq_true, Bool.and_eq_true, decide_eq_true_eq, beq_iff_eq]
  rcases h with ((h | h) | h) | h <;> subst h <;> decide

/-- Drops the blanks at the front of a character list. -/
def dropBlanks (cs : List Char) : List Char := cs.dropWhile isBlank

/-- Drops the blanks at both ends of a character list. -/
def trimList (cs : List Char) : List Char := (dropBlanks (dropBlanks cs).reverse).reverse

/-- Removes the blank characters at both ends of a text. -/
def trim (s : String) : String := String.ofList (trimList s.toList)

/-- Removes the blank characters at the start of a text. -/
def trimStart (s : String) : String := String.ofList (dropBlanks s.toList)

theorem dropBlanks_head {cs : List Char} {c : Char} {rest : List Char}
    (h : dropBlanks cs = c :: rest) : isBlank c = false := by
  induction cs with
  | nil => simp [dropBlanks] at h
  | cons d ds ih =>
    unfold dropBlanks at h ih
    by_cases hd : isBlank d = true
    · rw [List.dropWhile_cons_of_pos hd] at h
      exact ih h
    · rw [List.dropWhile_cons_of_neg hd] at h
      simp only [List.cons.injEq] at h
      rw [← h.1]
      simpa using hd

theorem dropBlanks_idem (cs : List Char) : dropBlanks (dropBlanks cs) = dropBlanks cs := by
  cases h : dropBlanks cs with
  | nil => rfl
  | cons c rest =>
    have hc := dropBlanks_head h
    simp [dropBlanks, hc]

theorem dropBlanks_cons_of_not_blank {c : Char} {rest : List Char} (hc : isBlank c = false) :
    dropBlanks (c :: rest) = c :: rest :=
  List.dropWhile_cons_of_neg (by simp [hc])

/-- What remains after the leading blanks ends where the whole list ends. -/
theorem getLast?_dropBlanks {cs : List Char} (h : dropBlanks cs ≠ []) :
    (dropBlanks cs).getLast? = cs.getLast? := by
  induction cs with
  | nil => simp [dropBlanks] at h
  | cons c rest induction =>
      by_cases hc : isBlank c = true
      · have hdrop : dropBlanks (c :: rest) = dropBlanks rest := List.dropWhile_cons_of_pos hc
        rw [hdrop] at h ⊢
        cases rest with
        | nil => simp [dropBlanks] at h
        | cons d more =>
            rw [induction h, List.getLast?_cons, List.getLast?_cons, List.getLast?_cons]
            simp
      · rw [dropBlanks_cons_of_not_blank (by simpa using hc)]

/-- A list that starts and ends with no blank is its own trim. -/
theorem trimList_eq_self {cs : List Char}
    (hhead : ∀ c ∈ cs.head?, isBlank c = false) (hlast : ∀ c ∈ cs.getLast?, isBlank c = false) :
    trimList cs = cs := by
  have hfront : dropBlanks cs = cs := by
    cases cs with
    | nil => rfl
    | cons c rest => exact dropBlanks_cons_of_not_blank (hhead c rfl)
  have hback : dropBlanks cs.reverse = cs.reverse := by
    cases hreverse : cs.reverse with
    | nil => rfl
    | cons c rest =>
        apply dropBlanks_cons_of_not_blank
        apply hlast
        rw [← List.head?_reverse, hreverse]
        rfl
  simp [trimList, hfront, hback]

/-- A trimmed list starts and ends with no blank. -/
theorem trimList_ends (cs : List Char) :
    (∀ c ∈ (trimList cs).head?, isBlank c = false) ∧
      (∀ c ∈ (trimList cs).getLast?, isBlank c = false) := by
  constructor
  · intro c hc
    rw [trimList, List.head?_reverse] at hc
    have hne : dropBlanks (dropBlanks cs).reverse ≠ [] := by
      intro e
      simp [e] at hc
    rw [getLast?_dropBlanks hne, List.getLast?_reverse] at hc
    cases hfront : dropBlanks cs with
    | nil => simp [hfront] at hc
    | cons d rest =>
        rw [hfront] at hc
        simp only [List.head?_cons, Option.mem_def, Option.some.injEq] at hc
        subst hc
        exact dropBlanks_head hfront
  · intro c hc
    rw [trimList, List.getLast?_reverse] at hc
    cases hback : dropBlanks (dropBlanks cs).reverse with
    | nil => simp [hback] at hc
    | cons d rest =>
        rw [hback] at hc
        simp only [List.head?_cons, Option.mem_def, Option.some.injEq] at hc
        subst hc
        exact dropBlanks_head hback

/-- Trimming twice is trimming once. -/
theorem trimList_trimList (cs : List Char) : trimList (trimList cs) = trimList cs :=
  trimList_eq_self (trimList_ends cs).1 (trimList_ends cs).2

end Text
end ResponseCache
