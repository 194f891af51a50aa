import ResponseCache.Freshness.Directives
import ResponseCache.Proofs.Text.Elements
import ResponseCache.Proofs.Http.TextValue
/-!
# Advertising the remaining lifetime

When an entry is served, every Cache-Control line is rewritten to advertise the seconds the entry
has left: each `max-age=` element becomes `max-age=remaining`, and a line without one gets one at
its end. Read again, the rewritten lines say what the stored lines said about storing, and give
`remaining` as the max-age wherever the stored lines gave a max-age (`ofLines_map_rewriteMaxAge`).

The last `max-age` decides, and a bare `max-age` without `=` is left alone by the rewrite while it
clears the max-age when read. The argument follows the directives element by element with the
relation `Follows`: the same `no-store` and `no-cache`, and `remaining` on the rewritten side
wherever the stored side has a max-age. A bare `max-age` clears the max-age on both sides, and
every rewritten or appended element sets `remaining`, so the relation survives each element.
-/

namespace ResponseCache

namespace Text

theorem digitsValue_eq_ofDigitChars (cs : List Char) :
    digitsValue cs = Nat.ofDigitChars 10 cs 0 := by
  unfold digitsValue Nat.ofDigitChars
  congr 1
  funext acc c
  rw [Nat.mul_comm]
  rfl

theorem toNat_of_isDigit {c : Char} (digit : c.isDigit = true) : 48 ≤ c.toNat ∧ c.toNat ≤ 57 := by
  simp only [Char.isDigit, Bool.and_eq_true, decide_eq_true_eq, UInt32.le_iff_toNat_le] at digit
  exact digit

theorem isBlank_of_digit {c : Char} (low : 48 ≤ c.toNat) (high : c.toNat ≤ 57) :
    isBlank c = false := by
  rw [Bool.eq_false_iff]
  intro blank
  simp only [isBlank, Bool.or_eq_true, Bool.and_eq_true, decide_eq_true_eq, beq_iff_eq] at blank
  omega

theorem isDigit_of_mem_repr {n : Nat} {c : Char} (member : c ∈ (Nat.repr n).toList) :
    c.isDigit = true := by
  rw [Nat.toList_repr] at member
  exact Nat.isDigit_of_mem_toDigits (by decide) (by decide) member

/-- A decimal numeral below the word bound reads back as its value. -/
theorem readWord_repr {n : Nat} (small : n < wordBound) : readWord (Nat.repr n) = some n := by
  obtain ⟨first, rest, digits⟩ := List.exists_cons_of_ne_nil (Nat.toDigits_ne_nil (n := n) (b := 10))
  have allDigits : (Nat.toDigits 10 n).all Char.isDigit = true :=
    List.all_eq_true.mpr fun c member => Nat.isDigit_of_mem_toDigits (by decide) (by decide) member
  have noSign : first ≠ '+' := by
    intro plus
    have digit := List.all_eq_true.mp allDigits first (digits ▸ List.mem_cons_self)
    rw [plus] at digit
    cases digit
  unfold readWord readNatBelow
  rw [Nat.toList_repr, digits]
  dsimp only
  split
  · rename_i plus
    cases plus
    exact absurd rfl noSign
  · rw [← digits, allDigits, digitsValue_eq_ofDigitChars, Nat.ofDigitChars_ten_toDigits]
    simp [digits, small]

end Text

namespace Freshness

open Text

/-- The element that advertises `remaining` seconds. -/
def maxAgeElement (remaining : Nat) : String := "max-age=" ++ Nat.repr remaining

/-- The elements of a rewritten Cache-Control value: every `max-age=` element is replaced by the
one advertising `remaining`, which is appended when there was none. -/
def refreshElements (remaining : Nat) (parts : List String) : List String :=
  let rewritten := parts.map fun p => if isMaxAgeElement p then maxAgeElement remaining else p
  if parts.any isMaxAgeElement then rewritten else rewritten ++ [maxAgeElement remaining]

theorem rewriteMaxAge_eq (value : String) (remaining : Nat) :
    rewriteMaxAge value remaining =
      String.intercalate ", " (refreshElements remaining (elements ',' value)) := rfl

theorem mem_maxAgeElement {remaining : Nat} {c : Char}
    (member : c ∈ (maxAgeElement remaining).toList) :
    48 ≤ c.toNat ∧ c.toNat ≤ 57 ∨ c ∈ "max-age=".toList := by
  rw [maxAgeElement, String.toList_append, List.mem_append] at member
  rcases member with label | digit
  · exact .inr label
  · exact .inl (toNat_of_isDigit (isDigit_of_mem_repr digit))

/-- The advertised element is made of letters, a hyphen, `=` and digits. -/
theorem maxAgeElement_chars {remaining : Nat} {c : Char}
    (member : c ∈ (maxAgeElement remaining).toList) :
    isBlank c = false ∧ c ≠ ',' ∧ c ≠ '"' ∧ Http.IsTextChar c := by
  have label : ∀ d ∈ "max-age=".toList,
      isBlank d = false ∧ d ≠ ',' ∧ d ≠ '"' ∧ (d.toNat = 9 ∨ (32 ≤ d.toNat ∧ d.toNat < 127)) := by
    intro d spelled
    rw [show "max-age=".toList = ['m', 'a', 'x', '-', 'a', 'g', 'e', '='] from rfl] at spelled
    simp only [List.mem_cons, List.not_mem_nil, or_false] at spelled
    rcases spelled with rfl | rfl | rfl | rfl | rfl | rfl | rfl | rfl <;> decide
  rcases mem_maxAgeElement member with ⟨low, high⟩ | spelled
  · refine ⟨isBlank_of_digit low high, fun comma => ?_, fun quote => ?_, .inr ⟨by omega, by omega⟩⟩
    · rw [comma] at low
      exact absurd low (by decide)
    · rw [quote] at low
      exact absurd low (by decide)
  · exact label c spelled

theorem trim_maxAgeElement (remaining : Nat) :
    trim (maxAgeElement remaining) = maxAgeElement remaining := by
  rw [trim, trimList_of_not_blank fun c member => (maxAgeElement_chars member).1,
    String.ofList_toList]

/-- Every element of a rewritten value is trimmed, non-empty and free of commas, and is an element
of the value or the advertised one. -/
theorem mem_refreshElements {remaining : Nat} {value e : String}
    (member : e ∈ refreshElements remaining (elements ',' value)) :
    (e ∈ elements ',' value ∨ e = maxAgeElement remaining) ∧
      trim e = e ∧ e.isEmpty = false ∧ ',' ∉ e.toList := by
  have mapped : ∀ {x : String}, x ∈ (elements ',' value).map
      (fun p => if isMaxAgeElement p then maxAgeElement remaining else p) →
        x ∈ elements ',' value ∨ x = maxAgeElement remaining := by
    intro x member
    obtain ⟨p, listed, rfl⟩ := List.mem_map.mp member
    by_cases age : isMaxAgeElement p = true
    · exact .inr (if_pos age)
    · rw [if_neg age]
      exact .inl listed
  have origin : e ∈ elements ',' value ∨ e = maxAgeElement remaining := by
    unfold refreshElements at member
    dsimp only at member
    split at member
    · exact mapped member
    · rcases List.mem_append.mp member with listed | appended
      · exact mapped listed
      · exact .inr (List.mem_singleton.mp appended)
  refine ⟨origin, ?_⟩
  rcases origin with listed | rfl
  · obtain ⟨trimmed, nonEmpty, chars⟩ := mem_elements listed
    exact ⟨trimmed, nonEmpty, fun comma => (chars ',' comma).2 rfl⟩
  · refine ⟨trim_maxAgeElement remaining, ?_, fun comma => (maxAgeElement_chars comma).2.1 rfl⟩
    rw [Bool.eq_false_iff]
    intro empty
    have spelled := congrArg String.toList (String.isEmpty_iff.mp empty)
    simp [maxAgeElement] at spelled

/-- Read again, a rewritten value has the rewritten elements. -/
theorem elements_rewriteMaxAge (value : String) (remaining : Nat) :
    elements ',' (rewriteMaxAge value remaining) = refreshElements remaining (elements ',' value) := by
  rw [rewriteMaxAge_eq]
  exact elements_intercalate fun e member => (mem_refreshElements member).2

/-- A rewritten line of value characters is again made of value characters. -/
theorem isValueText_rewriteMaxAge {value : String} (text : Http.IsValueText value)
    (remaining : Nat) : Http.IsValueText (rewriteMaxAge value remaining) := by
  intro c member
  rw [rewriteMaxAge_eq] at member
  rcases mem_intercalate member with separator | ⟨e, listed, inside⟩
  · rw [show ", ".toList = [',', ' '] from rfl] at separator
    simp only [List.mem_cons, List.not_mem_nil, or_false] at separator
    rcases separator with rfl | rfl <;> (unfold Http.IsTextChar; decide)
  · rcases (mem_refreshElements listed).1 with original | rfl
    · exact text c ((mem_elements original).2.2 c inside).1
    · exact (maxAgeElement_chars inside).2.2.2

/-! ## Rewriting twice -/

theorem splitOnce_maxAgeElement (remaining : Nat) :
    splitOnce '=' (maxAgeElement remaining) = some ("max-age", Nat.repr remaining) := by
  have spelled : (maxAgeElement remaining).toList =
      "max-age".toList ++ '=' :: (Nat.repr remaining).toList := by
    rw [maxAgeElement, String.toList_append]
    rfl
  rw [splitOnce, spelled, splitOnceList_append '=' _ _ (by decide)]
  simp only [Option.map_some, String.ofList_toList]

theorem isMaxAgeElement_maxAgeElement (remaining : Nat) :
    isMaxAgeElement (maxAgeElement remaining) = true := by
  rw [isMaxAgeElement, splitOnce_maxAgeElement]
  exact (by decide : eqIgnoreCase (trim "max-age") "max-age" = true)

/-- One element of a rewritten value. -/
def refreshElement (remaining : Nat) (p : String) : String :=
  if isMaxAgeElement p then maxAgeElement remaining else p

theorem refreshElements_eq (remaining : Nat) (parts : List String) :
    refreshElements remaining parts =
      if parts.any isMaxAgeElement then parts.map (refreshElement remaining)
      else parts.map (refreshElement remaining) ++ [maxAgeElement remaining] := rfl

theorem refreshElement_refreshElement (first second : Nat) (p : String) :
    refreshElement second (refreshElement first p) = refreshElement second p := by
  unfold refreshElement
  by_cases age : isMaxAgeElement p = true
  · rw [if_pos age, if_pos (isMaxAgeElement_maxAgeElement first), if_pos age]
  · rw [if_neg age, if_neg age]

/-- A rewritten value advertises a lifetime. -/
theorem any_refreshElements (remaining : Nat) (parts : List String) :
    (refreshElements remaining parts).any isMaxAgeElement = true := by
  rw [refreshElements_eq]
  by_cases found : parts.any isMaxAgeElement = true
  · rw [if_pos found]
    obtain ⟨p, member, age⟩ := List.any_eq_true.mp found
    refine List.any_eq_true.mpr ⟨_, List.mem_map_of_mem member, ?_⟩
    rw [refreshElement, if_pos age]
    exact isMaxAgeElement_maxAgeElement remaining
  · rw [if_neg found]
    exact List.any_eq_true.mpr ⟨_, List.mem_append_right _ (List.mem_singleton_self _),
      isMaxAgeElement_maxAgeElement remaining⟩

theorem refreshElements_refreshElements (first second : Nat) (parts : List String) :
    refreshElements second (refreshElements first parts) = refreshElements second parts := by
  rw [refreshElements_eq second (refreshElements first parts), if_pos (any_refreshElements first parts),
    refreshElements_eq first, refreshElements_eq second]
  by_cases found : parts.any isMaxAgeElement = true
  · rw [if_pos found, if_pos found, List.map_map]
    exact List.map_congr_left fun p _ => refreshElement_refreshElement first second p
  · rw [if_neg found, if_neg found, List.map_append, List.map_map, List.map_singleton,
      refreshElement, if_pos (isMaxAgeElement_maxAgeElement first)]
    congr 1
    exact List.map_congr_left fun p _ => refreshElement_refreshElement first second p

/-- Rewriting a rewritten value is rewriting the value once. -/
theorem rewriteMaxAge_rewriteMaxAge (value : String) (first second : Nat) :
    rewriteMaxAge (rewriteMaxAge value first) second = rewriteMaxAge value second := by
  rw [rewriteMaxAge_eq (rewriteMaxAge value first), elements_rewriteMaxAge,
    refreshElements_refreshElements, ← rewriteMaxAge_eq]

/-! ## Reading directives element by element -/

namespace Directives

theorem apply_trim (d : Directives) (x : String) : apply d (trim x) = apply d x := by
  simp only [apply, trim_trim]

theorem apply_of_isEmpty {d : Directives} {x : String} (empty : (trim x).isEmpty = true) :
    apply d x = d := by
  have blank : trim x = "" := String.isEmpty_iff.mp empty
  have noSplit : splitOnce '=' "" = none := by decide
  have age : eqIgnoreCase "" "max-age" = false := by decide
  have store : eqIgnoreCase "" "no-store" = false := by decide
  have cache : eqIgnoreCase "" "no-cache" = false := by decide
  simp [apply, blank, noSplit, age, store, cache]

/-- Directives are read from the trimmed, non-empty elements only. -/
theorem foldl_apply_eq_elements (d : Directives) (xs : List String) :
    xs.foldl apply d = ((xs.map trim).filter (!·.isEmpty)).foldl apply d := by
  induction xs generalizing d with
  | nil => rfl
  | cons x rest ih =>
      rw [List.foldl_cons, List.map_cons, List.filter_cons, ← apply_trim]
      by_cases empty : (trim x).isEmpty = true
      · rw [apply_of_isEmpty (by rw [trim_trim]; exact empty), if_neg (by simp [empty]), ih]
      · rw [if_pos (by simpa using empty), List.foldl_cons, ih]

/-- The relation between directives read from stored lines and from the same lines rewritten to
advertise `remaining` seconds: the same `no-store` and `no-cache`, and `remaining` as the max-age
wherever the stored lines give one. -/
structure Follows (remaining : Nat) (d d' : Directives) : Prop where
  noStore : d'.noStore = d.noStore
  noCache : d'.noCache = d.noCache
  maxAge : ∀ age, d.maxAge = some age → d'.maxAge = some remaining

variable {remaining : Nat} {d d' : Directives}

/-- What one directive can do: set the max-age, to nothing unless it is a `max-age=` element;
or, if it is not one, set `no-store`, set `no-cache`, or nothing at all. -/
theorem apply_cases (x : String) :
    (∃ age, (∀ d, apply d x = { d with maxAge := age }) ∧
        (isMaxAgeElement (trim x) = false → age = none)) ∨
      isMaxAgeElement (trim x) = false ∧
        ((∀ d, apply d x = { d with noStore := true }) ∨
          (∀ d, apply d x = { d with noCache := true }) ∨ ∀ d, apply d x = d) := by
  cases split : splitOnce '=' (trim x) with
  | none =>
      have plain : isMaxAgeElement (trim x) = false := by simp [isMaxAgeElement, split]
      by_cases age : eqIgnoreCase (trim x) "max-age" = true
      · exact .inl ⟨none, fun d => by simp [apply, split, age], fun _ => rfl⟩
      · refine .inr ⟨plain, ?_⟩
        by_cases store : eqIgnoreCase (trim x) "no-store" = true
        · exact .inl fun d => by simp [apply, split, age, store]
        · by_cases cache : eqIgnoreCase (trim x) "no-cache" = true
          · exact .inr (.inl fun d => by simp [apply, split, age, store, cache])
          · exact .inr (.inr fun d => by simp [apply, split, age, store, cache])
  | some parts =>
      obtain ⟨n, v⟩ := parts
      by_cases age : eqIgnoreCase (trim n) "max-age" = true
      · exact .inl ⟨readWord (String.ofList (trimQuotes (trimList v.toList))),
          fun d => by simp [apply, split, age], fun plain => by
            simp [isMaxAgeElement, split, age] at plain⟩
      · have plain : isMaxAgeElement (trim x) = false := by simp [isMaxAgeElement, split, age]
        refine .inr ⟨plain, ?_⟩
        by_cases store : eqIgnoreCase (trim n) "no-store" = true
        · exact .inl fun d => by simp [apply, split, age, store]
        · by_cases cache : eqIgnoreCase (trim n) "no-cache" = true
          · exact .inr (.inl fun d => by simp [apply, split, age, store, cache])
          · exact .inr (.inr fun d => by simp [apply, split, age, store, cache])

/-- An element that is not a `max-age=` element acts alike on both sides. -/
theorem Follows.apply_same {p : String} (follows : Follows remaining d d') (trimmed : trim p = p)
    (plain : isMaxAgeElement p = false) : Follows remaining (apply d p) (apply d' p) := by
  rcases apply_cases p with ⟨age, sets, bare⟩ | ⟨-, store | cache | nothing⟩
  · rw [sets, sets, bare (by rw [trimmed]; exact plain)]
    exact ⟨follows.noStore, follows.noCache, fun _ cleared => by cases cleared⟩
  · rw [store, store]
    exact ⟨rfl, follows.noCache, follows.maxAge⟩
  · rw [cache, cache]
    exact ⟨follows.noStore, rfl, follows.maxAge⟩
  · rw [nothing, nothing]
    exact follows

theorem apply_of_isMaxAgeElement {p : String} (trimmed : trim p = p)
    (age : isMaxAgeElement p = true) :
    (apply d p).noStore = d.noStore ∧ (apply d p).noCache = d.noCache := by
  rcases apply_cases p with ⟨_, sets, -⟩ | ⟨plain, -⟩
  · rw [sets]
    exact ⟨rfl, rfl⟩
  · rw [trimmed, age] at plain
    cases plain

/-- The advertised element sets the max-age to `remaining` and nothing else. -/
theorem apply_maxAgeElement (small : remaining < wordBound) (d : Directives) :
    apply d (maxAgeElement remaining) = { d with maxAge := some remaining } := by
  have split := splitOnce_maxAgeElement remaining
  have digits : ∀ c ∈ (Nat.repr remaining).toList, isBlank c = false ∧ c ≠ '"' := by
    intro c member
    have inside : c ∈ (maxAgeElement remaining).toList := by
      rw [maxAgeElement, String.toList_append]
      exact List.mem_append_right _ member
    exact ⟨(maxAgeElement_chars inside).1, (maxAgeElement_chars inside).2.2.1⟩
  have unquoted : ∀ cs : List Char, (∀ c ∈ cs, c ≠ '"') → cs.dropWhile (· == '"') = cs := by
    intro cs noQuote
    cases cs with
    | nil => rfl
    | cons c rest => exact List.dropWhile_cons_of_neg (by simpa using noQuote c List.mem_cons_self)
  have argument : String.ofList (trimQuotes (trimList (Nat.repr remaining).toList)) =
      Nat.repr remaining := by
    rw [trimList_of_not_blank fun c member => (digits c member).1, trimQuotes,
      unquoted _ fun c member => (digits c member).2,
      unquoted _ fun c member => (digits c (List.mem_reverse.mp member)).2,
      List.reverse_reverse, String.ofList_toList]
  have named : eqIgnoreCase (trim "max-age") "max-age" = true := by decide
  simp only [apply, trim_maxAgeElement, split, named, if_true, argument, Option.bind_some,
    readWord_repr small]

/-- Over one line, the stored elements and the rewritten ones keep the relation. -/
theorem Follows.foldl_refresh (small : remaining < wordBound) {parts : List String}
    (trimmed : ∀ p ∈ parts, trim p = p) (follows : Follows remaining d d') :
    Follows remaining (parts.foldl apply d) ((refreshElements remaining parts).foldl apply d') := by
  have replaced : ∀ {d d' : Directives}, Follows remaining d d' →
      Follows remaining (parts.foldl apply d)
        ((parts.map fun p => if isMaxAgeElement p then maxAgeElement remaining else p).foldl
          apply d') := by
    induction parts with
    | nil => exact id
    | cons p rest ih =>
        intro d d' follows
        rw [List.foldl_cons, List.map_cons, List.foldl_cons]
        apply ih fun q member => trimmed q (List.mem_cons_of_mem _ member)
        by_cases age : isMaxAgeElement p = true
        · rw [if_pos age, apply_maxAgeElement small]
          obtain ⟨sameStore, sameCache⟩ := apply_of_isMaxAgeElement (d := d)
            (trimmed p List.mem_cons_self) age
          exact ⟨follows.noStore.trans sameStore.symm, follows.noCache.trans sameCache.symm,
            fun _ _ => rfl⟩
        · rw [if_neg age]
          exact follows.apply_same (trimmed p List.mem_cons_self) (by simpa using age)
  unfold refreshElements
  split
  · exact replaced follows
  · rw [List.foldl_append, List.foldl_cons, List.foldl_nil, apply_maxAgeElement small]
    have before := replaced follows
    exact ⟨before.noStore, before.noCache, fun _ _ => rfl⟩

/-- Over many lines, the stored elements and the rewritten ones keep the relation. -/
theorem Follows.foldl_lines (small : remaining < wordBound) (lines : List String)
    (follows : Follows remaining d d') :
    Follows remaining ((lines.flatMap (elements ',')).foldl apply d)
      ((lines.flatMap fun t => refreshElements remaining (elements ',' t)).foldl apply d') := by
  induction lines generalizing d d' with
  | nil => exact follows
  | cons t rest ih =>
      rw [List.flatMap_cons, List.flatMap_cons, List.foldl_append, List.foldl_append]
      exact ih (follows.foldl_refresh small (fun p member => (mem_elements member).1))

theorem foldl_lines_eq (lines : List String) (d : Directives) :
    (lines.flatMap (splitAll ',')).foldl apply d = (lines.flatMap (elements ',')).foldl apply d := by
  rw [foldl_apply_eq_elements, List.map_flatMap, List.filter_flatMap]
  rfl

/-- Rewritten Cache-Control lines read as the stored lines do, with `remaining` as the max-age
wherever the stored lines give one. -/
theorem ofLines_map_rewriteMaxAge {lines : List String} (read : ofLines lines = some d)
    (small : remaining < wordBound) :
    ∃ d', ofLines (lines.map (rewriteMaxAge · remaining)) = some d' ∧ Follows remaining d d' := by
  unfold ofLines at read ⊢
  split at read
  · cases read
  · rename_i present
    cases read
    refine ⟨_, if_neg (by simpa using present), ?_⟩
    rw [foldl_lines_eq, foldl_lines_eq, List.flatMap_map]
    simp only [elements_rewriteMaxAge]
    exact Follows.foldl_lines small lines ⟨rfl, rfl, fun _ none => by cases none⟩

end Directives

end Freshness

end ResponseCache
