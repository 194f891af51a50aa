import Mathlib.Data.List.TakeWhile
import ResponseCache.Proofs.Freshness.MaxAgeRewrite
import ResponseCache.Proofs.Media.AcceptGrammar
/-!
# Reading Cache-Control

Cache-Control is read from every line of the header that reads as text; when no line does, there
are no directives at all. The lines are split at every comma into directives. A directive's name
is what stands before its first `=` (all of it when it has none), trimmed of blanks, and compared
without regard to ASCII case; its argument is what follows that `=`.

The directives are applied in order. A `no-store` or `no-cache` anywhere sets its flag for good
(`foldl_flag_iff`). The max-age is set by each directive named `max-age`, so the last one decides
(`maxAge_foldl_eq_some_iff`); its argument gives seconds by the rule of unsigned 64-bit reading
(`DeltaSeconds`): with blanks and then double quotes dropped at both ends, an optional `+` and one
or more ASCII digits with a value below 2^64. Any other argument, or none, leaves no max-age.

The argument is read as a whole text, so what trimming drops is described by splitting the text
into the dropped ends and the rest (`exists_stripEnds`, `stripEnds_append`).
-/

namespace ResponseCache

namespace Text

/-- Drops the characters satisfying `p` at both ends of a list. -/
def stripEnds (p : Char → Bool) (cs : List Char) : List Char :=
  ((cs.dropWhile p).reverse.dropWhile p).reverse

theorem trimList_eq_stripEnds (cs : List Char) : trimList cs = stripEnds isBlank cs := rfl

theorem dropWhile_of_forall_not {p : Char → Bool} {cs : List Char} (kept : ∀ c ∈ cs, p c = false) :
    cs.dropWhile p = cs := by
  cases cs with
  | nil => rfl
  | cons c rest => exact List.dropWhile_cons_of_neg (by simpa using kept c List.mem_cons_self)

/-- A list with no character of `p` keeps both its ends. -/
theorem stripEnds_of_forall_not {p : Char → Bool} {cs : List Char} (kept : ∀ c ∈ cs, p c = false) :
    stripEnds p cs = cs := by
  rw [stripEnds, dropWhile_of_forall_not kept,
    dropWhile_of_forall_not fun c member => kept c (List.mem_reverse.mp member), List.reverse_reverse]

/-- Characters of `p` added at both ends are dropped again. -/
theorem stripEnds_append {p : Char → Bool} (front mid back : List Char) (frontDropped : ∀ c ∈ front, p c)
    (backDropped : ∀ c ∈ back, p c) : stripEnds p (front ++ mid ++ back) = stripEnds p mid := by
  rw [stripEnds, List.append_assoc, List.dropWhile_append_of_pos frontDropped, List.dropWhile_append]
  split
  · rename_i gone
    rw [List.dropWhile_eq_nil_iff.mpr backDropped, stripEnds, List.isEmpty_iff.mp gone]
  · rw [List.reverse_append, List.dropWhile_append_of_pos fun c member =>
      backDropped c (List.mem_reverse.mp member), stripEnds]

/-- Every list is what remains after stripping, between two ends that stripping drops. -/
theorem exists_stripEnds (p : Char → Bool) (cs : List Char) :
    ∃ front back, cs = front ++ stripEnds p cs ++ back ∧ (∀ c ∈ front, p c) ∧ ∀ c ∈ back, p c := by
  refine ⟨cs.takeWhile p, ((cs.dropWhile p).reverse.takeWhile p).reverse, ?_,
    fun c member => List.mem_takeWhile_imp member,
    fun c member => List.mem_takeWhile_imp (List.mem_reverse.mp member)⟩
  have rest : cs.dropWhile p =
      ((cs.dropWhile p).reverse.dropWhile p).reverse ++
        ((cs.dropWhile p).reverse.takeWhile p).reverse := by
    rw [← List.reverse_append, List.takeWhile_append_dropWhile, List.reverse_reverse]
  rw [stripEnds, List.append_assoc, ← rest, List.takeWhile_append_dropWhile]

/-! ## Unsigned words -/

/-- A numeral as unsigned 64-bit reading accepts it: an optional `+`, then one or more ASCII
digits whose value `n` is below 2^64. -/
def IsWordNumeral (cs : List Char) (n : Nat) : Prop :=
  ∃ digits, (cs = digits ∨ cs = '+' :: digits) ∧ digits ≠ [] ∧
    (∀ d ∈ digits, d.isDigit = true) ∧ Nat.ofDigitChars 10 digits 0 = n ∧ n < wordBound

/-- Reading an unsigned word accepts exactly its numerals. -/
theorem readWord_eq_some_iff {cs : List Char} {n : Nat} :
    readWord (String.ofList cs) = some n ↔ IsWordNumeral cs n := by
  have digitsRead : ∀ digits : List Char,
      (if (digits.isEmpty || !digits.all Char.isDigit) = true then none
        else if digitsValue digits < wordBound then some (digitsValue digits) else none) = some n ↔
      digits ≠ [] ∧ (∀ d ∈ digits, d.isDigit = true) ∧ Nat.ofDigitChars 10 digits 0 = n ∧
        n < wordBound := by
    intro digits
    rw [← digitsValue_eq_ofDigitChars]
    simp only [Option.ite_none_left_eq_some, Option.ite_none_right_eq_some, Option.some.injEq,
      Bool.or_eq_true, List.isEmpty_iff, Bool.not_eq_true', List.all_eq_false, not_or, not_exists,
      not_and, Decidable.not_not, ne_eq]
    constructor
    · rintro ⟨⟨nonEmpty, allDigits⟩, small, rfl⟩
      exact ⟨nonEmpty, allDigits, rfl, small⟩
    · rintro ⟨nonEmpty, allDigits, rfl, small⟩
      exact ⟨⟨nonEmpty, allDigits⟩, small, rfl⟩
  unfold readWord readNatBelow
  rw [String.toList_ofList]
  dsimp only
  split
  · rename_i rest
    rw [digitsRead]
    constructor
    · rintro ⟨nonEmpty, allDigits, value, small⟩
      exact ⟨rest, .inr rfl, nonEmpty, allDigits, value, small⟩
    · rintro ⟨digits, spelled | spelled, nonEmpty, allDigits, value, small⟩
      · have first := allDigits '+' (spelled ▸ List.mem_cons_self)
        cases first
      · cases spelled
        exact ⟨nonEmpty, allDigits, value, small⟩
  · rename_i unsigned
    rw [digitsRead]
    constructor
    · rintro ⟨nonEmpty, allDigits, value, small⟩
      exact ⟨cs, .inl rfl, nonEmpty, allDigits, value, small⟩
    · rintro ⟨digits, rfl | rfl, nonEmpty, allDigits, value, small⟩
      · exact ⟨nonEmpty, allDigits, value, small⟩
      · exact absurd rfl (unsigned digits)

/-- A numeral holds no blank and no double quote. -/
theorem IsWordNumeral.chars {cs : List Char} {n : Nat} (numeral : IsWordNumeral cs n) :
    ∀ c ∈ cs, isBlank c = false ∧ c ≠ '"' := by
  obtain ⟨digits, spelled, -, allDigits, -⟩ := numeral
  have ofDigit : ∀ c ∈ digits, isBlank c = false ∧ c ≠ '"' := by
    intro c member
    obtain ⟨low, high⟩ := toNat_of_isDigit (allDigits c member)
    refine ⟨isBlank_of_digit low high, fun quote => ?_⟩
    rw [quote] at low
    exact absurd low (by decide)
  rcases spelled with rfl | rfl
  · exact ofDigit
  · intro c member
    rcases List.mem_cons.mp member with rfl | later
    · decide
    · exact ofDigit c later

end Text

namespace Freshness

namespace Directives

open Text

/-! ## Max-age arguments -/

theorem trimQuotes_eq_stripEnds (cs : List Char) : trimQuotes cs = stripEnds (· == '"') cs := rfl

/-- The seconds a max-age argument gives: with blanks and then double quotes dropped at both
ends, what remains is a numeral of unsigned 64-bit reading. -/
def DeltaSeconds (arg : String) (n : Nat) : Prop :=
  ∃ blanks quotes numeral quotes' blanks' : List Char,
    arg.toList = blanks ++ quotes ++ numeral ++ quotes' ++ blanks' ∧
      (∀ c ∈ blanks ++ blanks', isBlank c = true) ∧ (∀ c ∈ quotes ++ quotes', c = '"') ∧
      IsWordNumeral numeral n

/-- The seconds an argument gives as the reader computes them. -/
def seconds (arg : String) : Option Nat := readWord (String.ofList (trimQuotes (trimList arg.toList)))

/-- The reader gives seconds exactly for the arguments `DeltaSeconds` describes. -/
theorem seconds_eq_some_iff {arg : String} {n : Nat} : seconds arg = some n ↔ DeltaSeconds arg n := by
  rw [seconds, readWord_eq_some_iff]
  constructor
  · intro numeral
    obtain ⟨blanks, blanks', spelled, dropped, dropped'⟩ := exists_stripEnds isBlank arg.toList
    obtain ⟨quotes, quotes', quoted, quote, quote'⟩ :=
      exists_stripEnds (· == '"') (trimList arg.toList)
    rw [← trimList_eq_stripEnds] at spelled
    rw [← trimQuotes_eq_stripEnds] at quoted
    refine ⟨blanks, quotes, _, quotes', blanks', ?_, ?_, ?_, numeral⟩
    · calc arg.toList = blanks ++ trimList arg.toList ++ blanks' := spelled
        _ = blanks ++ (quotes ++ trimQuotes (trimList arg.toList) ++ quotes') ++ blanks' :=
          congrArg (fun t => blanks ++ t ++ blanks') quoted
        _ = blanks ++ quotes ++ trimQuotes (trimList arg.toList) ++ quotes' ++ blanks' := by
          simp only [List.append_assoc]
    · intro c member
      rcases List.mem_append.mp member with front | back
      · exact dropped c front
      · exact dropped' c back
    · intro c member
      rcases List.mem_append.mp member with front | back
      · exact beq_iff_eq.mp (quote c front)
      · exact beq_iff_eq.mp (quote' c back)
  · rintro ⟨blanks, quotes, numeral, quotes', blanks', spelled, blank, quote, read⟩
    have inner : ∀ c ∈ quotes ++ numeral ++ quotes', isBlank c = false := by
      intro c member
      rcases List.mem_append.mp member with front | back
      · rcases List.mem_append.mp front with quoted | digit
        · rw [quote c (List.mem_append_left _ quoted)]
          rfl
        · exact (read.chars c digit).1
      · rw [quote c (List.mem_append_right _ back)]
        rfl
    have shape : blanks ++ quotes ++ numeral ++ quotes' ++ blanks' =
        blanks ++ (quotes ++ numeral ++ quotes') ++ blanks' := by
      simp only [List.append_assoc]
    have unblanked : trimList arg.toList = quotes ++ numeral ++ quotes' := by
      rw [spelled, trimList_eq_stripEnds, shape, stripEnds_append _ _ _
          (fun c member => blank c (List.mem_append_left _ member))
          (fun c member => blank c (List.mem_append_right _ member)),
        stripEnds_of_forall_not inner]
    have unquoted : trimQuotes (quotes ++ numeral ++ quotes') = numeral := by
      rw [trimQuotes_eq_stripEnds, stripEnds_append _ _ _
          (fun c member => beq_iff_eq.mpr (quote c (List.mem_append_left _ member)))
          (fun c member => beq_iff_eq.mpr (quote c (List.mem_append_right _ member))),
        stripEnds_of_forall_not fun c member => by simpa using (read.chars c member).2]
    rw [unblanked, unquoted]
    exact read

/-! ## One directive -/

/-- The name of a directive: what stands before its first `=` (all of it when it has none), with
blanks dropped at both ends. -/
def directiveName (x : String) : String := trim (String.ofList (x.toList.takeWhile (· != '=')))

/-- The argument of a directive: what follows its first `=`, when it has one. -/
def directiveArgument (x : String) : Option String :=
  match x.toList.dropWhile (· != '=') with
  | [] => none
  | _ :: rest => some (String.ofList rest)

/-- `x` is a directive named `name`, in any ASCII case. -/
def Names (name x : String) : Prop := eqIgnoreCase (directiveName x) name = true

section Split

variable {x : String} {front back : List Char}

theorem bne_of_not_mem {cs : List Char} (absent : '=' ∉ cs) : ∀ c ∈ cs, (c != '=') = true :=
  fun c member => bne_iff_ne.mpr fun (same : c = '=') => absent (same ▸ member)

theorem takeWhile_of_split (spelled : x.toList = front ++ '=' :: back) (absent : '=' ∉ front) :
    x.toList.takeWhile (· != '=') = front ∧ x.toList.dropWhile (· != '=') = '=' :: back := by
  rw [spelled, List.takeWhile_append_of_pos (bne_of_not_mem absent),
    List.dropWhile_append_of_pos (bne_of_not_mem absent)]
  exact ⟨by simp, by simp⟩

theorem directiveName_of_split (spelled : x.toList = front ++ '=' :: back) (absent : '=' ∉ front) :
    directiveName x = trim (String.ofList front) := by
  rw [directiveName, (takeWhile_of_split spelled absent).1]

theorem directiveArgument_of_split (spelled : x.toList = front ++ '=' :: back)
    (absent : '=' ∉ front) : directiveArgument x = some (String.ofList back) := by
  rw [directiveArgument, (takeWhile_of_split spelled absent).2]

theorem directiveName_of_not_mem (absent : '=' ∉ x.toList) : directiveName x = trim x := by
  rw [directiveName, List.takeWhile_eq_self_iff.mpr (bne_of_not_mem absent), String.ofList_toList]

theorem directiveArgument_of_not_mem (absent : '=' ∉ x.toList) : directiveArgument x = none := by
  rw [directiveArgument, List.dropWhile_eq_nil_iff.mpr (bne_of_not_mem absent)]

/-- Trimming a directive with `=` leaves the first `=` in place, with the name before it and the
argument after it trimmed as they would be on their own. -/
theorem splitOnce_trim (spelled : x.toList = front ++ '=' :: back) (absent : '=' ∉ front) :
    ∃ front' back', splitOnce '=' (trim x) = some (String.ofList front', String.ofList back') ∧
      trimList front' = trimList front ∧ trimList back' = trimList back := by
  obtain ⟨blanks, blanks', around, frontBlank, backBlank⟩ := exists_stripEnds isBlank x.toList
  rw [← trimList_eq_stripEnds] at around
  have notDropped : ∀ {cs : List Char}, (∀ c ∈ cs, isBlank c = true) → '=' ∉ cs :=
    fun dropped member => absurd (dropped '=' member) (by decide)
  have kept : '=' ∈ trimList x.toList := by
    have inside : '=' ∈ x.toList := spelled ▸ List.mem_append_right _ List.mem_cons_self
    rw [around, List.mem_append, List.mem_append] at inside
    rcases inside with (dropped | kept) | dropped
    · exact absurd dropped (notDropped frontBlank)
    · exact kept
    · exact absurd dropped (notDropped backBlank)
  cases split : splitOnceList '=' (trimList x.toList) with
  | none => exact absurd kept (splitOnceList_eq_none_iff.mp split)
  | some parts =>
      obtain ⟨front', back'⟩ := parts
      obtain ⟨trimmed, absent'⟩ := splitOnceList_eq_some_iff.mp split
      have whole : splitOnceList '=' x.toList = some (blanks ++ front', back' ++ blanks') := by
        refine splitOnceList_eq_some_iff.mpr ⟨?_, fun member => ?_⟩
        · rw [around, trimmed]
          simp only [List.append_assoc, List.cons_append]
        · rcases List.mem_append.mp member with dropped | named
          · exact notDropped frontBlank dropped
          · exact absent' named
      rw [spelled, splitOnceList_append '=' front back absent, Option.some.injEq,
        Prod.mk.injEq] at whole
      obtain ⟨rfl, rfl⟩ := whole
      refine ⟨front', back', ?_, ?_, ?_⟩
      · rw [splitOnce, trim, String.toList_ofList, split]
        rfl
      · rw [trimList_eq_stripEnds, trimList_eq_stripEnds, ← List.append_nil (blanks ++ front'),
          stripEnds_append _ _ _ frontBlank fun c member => by cases member]
      · rw [trimList_eq_stripEnds, trimList_eq_stripEnds, ← List.nil_append back',
          stripEnds_append _ _ _ (fun c member => by cases member) backBlank, List.nil_append]

end Split

/-- One directive, read by its name and argument: one named `max-age` sets the max-age to the
seconds its argument gives, none without one; one named `no-store` or `no-cache` sets that flag;
any other changes nothing. -/
theorem apply_eq (d : Directives) (x : String) :
    apply d x =
      if eqIgnoreCase (directiveName x) "max-age" then
        { d with maxAge := (directiveArgument x).bind seconds }
      else if eqIgnoreCase (directiveName x) "no-store" then { d with noStore := true }
      else if eqIgnoreCase (directiveName x) "no-cache" then { d with noCache := true }
      else d := by
  cases split : splitOnceList '=' x.toList with
  | none =>
      have absent := splitOnceList_eq_none_iff.mp split
      have unsplit : splitOnce '=' (trim x) = none := splitOnce_eq_none_iff.mpr (not_mem_trim absent)
      simp only [apply, unsplit, directiveName_of_not_mem absent, directiveArgument_of_not_mem absent,
        Option.bind_none]
  | some parts =>
      obtain ⟨spelled, absent⟩ := splitOnceList_eq_some_iff.mp split
      obtain ⟨front', back', trimmedSplit, sameName, sameArgument⟩ := splitOnce_trim spelled absent
      have name : trim (String.ofList front') = directiveName x := by
        rw [directiveName_of_split spelled absent, trim, trim, String.toList_ofList,
          String.toList_ofList, sameName]
      have argument : readWord (String.ofList (trimQuotes (trimList (String.ofList back').toList))) =
          (directiveArgument x).bind seconds := by
        rw [directiveArgument_of_split spelled absent, Option.bind_some, seconds,
          String.toList_ofList, String.toList_ofList, sameArgument]
      simp only [apply, trimmedSplit, name, Option.bind_some, argument]

theorem eqIgnoreCase_congr {a b : String} (same : eqIgnoreCase a b = true) (c : String) :
    eqIgnoreCase a c = eqIgnoreCase b c := by
  unfold eqIgnoreCase at same ⊢
  rw [beq_iff_eq.mp same]

theorem maxAge_apply (d : Directives) (x : String) :
    (apply d x).maxAge =
      if eqIgnoreCase (directiveName x) "max-age" then (directiveArgument x).bind seconds
      else d.maxAge := by
  rw [apply_eq]
  by_cases age : eqIgnoreCase (directiveName x) "max-age" = true
  · rw [if_pos age, if_pos age]
  · rw [if_neg age, if_neg age]
    split
    · rfl
    · split <;> rfl

theorem noStore_apply (d : Directives) (x : String) :
    (apply d x).noStore = (d.noStore || eqIgnoreCase (directiveName x) "no-store") := by
  rw [apply_eq]
  by_cases age : eqIgnoreCase (directiveName x) "max-age" = true
  · rw [if_pos age, eqIgnoreCase_congr age, show eqIgnoreCase "max-age" "no-store" = false by decide,
      Bool.or_false]
  · by_cases store : eqIgnoreCase (directiveName x) "no-store" = true
    · rw [if_neg age, if_pos store, store, Bool.or_true]
    · rw [if_neg age, if_neg store, Bool.eq_false_iff.mpr store, Bool.or_false]
      split <;> rfl

theorem noCache_apply (d : Directives) (x : String) :
    (apply d x).noCache = (d.noCache || eqIgnoreCase (directiveName x) "no-cache") := by
  rw [apply_eq]
  by_cases age : eqIgnoreCase (directiveName x) "max-age" = true
  · rw [if_pos age, eqIgnoreCase_congr age, show eqIgnoreCase "max-age" "no-cache" = false by decide,
      Bool.or_false]
  · by_cases store : eqIgnoreCase (directiveName x) "no-store" = true
    · rw [if_neg age, if_pos store, eqIgnoreCase_congr store,
        show eqIgnoreCase "no-store" "no-cache" = false by decide, Bool.or_false]
    · rw [if_neg age, if_neg store]
      by_cases cache : eqIgnoreCase (directiveName x) "no-cache" = true
      · rw [if_pos cache, cache, Bool.or_true]
      · rw [if_neg cache, Bool.eq_false_iff.mpr cache, Bool.or_false]

/-! ## Runs of directives -/

/-- A flag that a directive of one name sets and every other directive keeps is set after a run
exactly when it was set before or a directive of the run has that name. -/
theorem foldl_flag_iff {flag : Directives → Bool} {name : String}
    (step : ∀ d x, flag (apply d x) = (flag d || eqIgnoreCase (directiveName x) name))
    (ds : List String) (d : Directives) :
    flag (ds.foldl apply d) = true ↔ flag d = true ∨ ∃ x ∈ ds, Names name x := by
  induction ds generalizing d with
  | nil => simp
  | cons x rest ih =>
      rw [List.foldl_cons, ih, step, Bool.or_eq_true]
      simp only [List.mem_cons, exists_eq_or_imp, Names, or_assoc]

section Last

variable {α : Type} {P Q : α → Prop} {l : List α} {z : α}

/-- An element with `P` added last is the last with `P`. -/
theorem exists_last_concat_of (named : P z) :
    (∃ before x after, l ++ [z] = before ++ x :: after ∧ P x ∧ (∀ y ∈ after, ¬P y) ∧ Q x) ↔ Q z := by
  constructor
  · rintro ⟨before, x, after, spelled, -, later, holds⟩
    rcases Media.concat_eq_append_cons spelled with ⟨-, -, rfl⟩ | ⟨rest, rfl, -⟩
    · exact holds
    · exact absurd named (later z (List.mem_append_right _ (List.mem_singleton_self _)))
  · intro holds
    exact ⟨l, z, [], rfl, named, (fun _ member => by cases member), holds⟩

/-- An element without `P` added last leaves the last with `P` where it was. -/
theorem exists_last_concat_of_not (unnamed : ¬P z) :
    (∃ before x after, l ++ [z] = before ++ x :: after ∧ P x ∧ (∀ y ∈ after, ¬P y) ∧ Q x) ↔
      ∃ before x after, l = before ++ x :: after ∧ P x ∧ (∀ y ∈ after, ¬P y) ∧ Q x := by
  constructor
  · rintro ⟨before, x, after, spelled, named, later, holds⟩
    rcases Media.concat_eq_append_cons spelled with ⟨-, -, rfl⟩ | ⟨rest, rfl, rfl⟩
    · exact absurd named unnamed
    · exact ⟨before, x, rest, rfl, named, fun y member => later y (List.mem_append_left _ member),
        holds⟩
  · rintro ⟨before, x, after, rfl, named, later, holds⟩
    refine ⟨before, x, after ++ [z], by simp, named, fun y member => ?_, holds⟩
    rcases List.mem_append.mp member with earlier | added
    · exact later y earlier
    · rw [List.mem_singleton.mp added]
      exact unnamed

end Last

theorem bind_seconds_eq_some_iff (arg : Option String) (n : Nat) :
    arg.bind seconds = some n ↔ ∃ a, arg = some a ∧ DeltaSeconds a n := by
  rw [Option.bind_eq_some_iff]
  simp only [seconds_eq_some_iff]

/-- After a run of directives the max-age is `n` exactly when the last directive named `max-age`
has an argument giving `n` seconds, or, with no directive so named, when it was `n` before. -/
theorem maxAge_foldl_eq_some_iff (ds : List String) (d : Directives) (n : Nat) :
    (ds.foldl apply d).maxAge = some n ↔
      (∃ before x after, ds = before ++ x :: after ∧ Names "max-age" x ∧
          (∀ y ∈ after, ¬Names "max-age" y) ∧ ∃ arg, directiveArgument x = some arg ∧ DeltaSeconds arg n) ∨
        ((∀ y ∈ ds, ¬Names "max-age" y) ∧ d.maxAge = some n) := by
  induction ds using List.reverseRecOn with
  | nil => simp
  | append_singleton ds z ih =>
      rw [List.foldl_append, List.foldl_cons, List.foldl_nil, maxAge_apply]
      by_cases age : Names "max-age" z
      · rw [if_pos (show eqIgnoreCase (directiveName z) "max-age" = true from age),
          exists_last_concat_of age, bind_seconds_eq_some_iff]
        simp only [List.mem_append, List.mem_singleton]
        constructor
        · exact .inl
        · rintro (holds | ⟨none, -⟩)
          · exact holds
          · exact absurd age (none z (.inr rfl))
      · rw [if_neg (show ¬eqIgnoreCase (directiveName z) "max-age" = true from age), ih,
          exists_last_concat_of_not age]
        simp only [List.mem_append, List.mem_singleton, or_imp, forall_and, forall_eq, and_assoc,
          age, not_false_eq_true, true_and]

/-! ## Header lines -/

/-- The directives of the Cache-Control lines of a header list that read as text, in order. -/
def cacheControlDirectives (hs : Http.Headers) : List String :=
  (hs.texts Http.HeaderName.cacheControl).flatMap (splitAll ',')

theorem ofLines_eq_none_iff (lines : List String) : ofLines lines = none ↔ lines = [] := by
  cases lines <;> simp [ofLines]

theorem ofHeaders_eq_none_iff (hs : Http.Headers) :
    ofHeaders hs = none ↔ ∀ v ∈ hs.getAll Http.HeaderName.cacheControl, v.text? = none := by
  rw [ofHeaders, ofLines_eq_none_iff, Http.Headers.texts, List.filterMap_eq_nil_iff]

theorem eq_foldl_of_ofHeaders {hs : Http.Headers} {d : Directives} (read : ofHeaders hs = some d) :
    d = (cacheControlDirectives hs).foldl apply {} := by
  rw [ofHeaders, ofLines] at read
  split at read
  · cases read
  · cases read
    rfl

/-- Cache-Control reading follows RFC 9111 with unsigned 64-bit max-age arguments: there are no
directives exactly when no Cache-Control line reads as text; otherwise the max-age is `n` exactly
when the last directive named `max-age`, in any case, over the readable lines split at commas,
has an argument that, with blanks and then double quotes dropped at both ends, is an optional `+`
and one or more ASCII digits denoting `n < 2^64`; and `no-store` and `no-cache` are set exactly
when some directive carries that name. -/
theorem cacheControl_reads_last_max_age (hs : Http.Headers) :
    (ofHeaders hs = none ↔ ∀ v ∈ hs.getAll Http.HeaderName.cacheControl, v.text? = none) ∧
      ∀ d, ofHeaders hs = some d →
        (∀ n, d.maxAge = some n ↔ ∃ before x after, cacheControlDirectives hs = before ++ x :: after ∧
          Names "max-age" x ∧ (∀ y ∈ after, ¬Names "max-age" y) ∧
          ∃ arg, directiveArgument x = some arg ∧ DeltaSeconds arg n) ∧
        (d.noStore = true ↔ ∃ x ∈ cacheControlDirectives hs, Names "no-store" x) ∧
        (d.noCache = true ↔ ∃ x ∈ cacheControlDirectives hs, Names "no-cache" x) := by
  refine ⟨ofHeaders_eq_none_iff hs, fun d read => ?_⟩
  rw [eq_foldl_of_ofHeaders read]
  refine ⟨fun n => ?_, ?_, ?_⟩
  · rw [maxAge_foldl_eq_some_iff]
    simp
  · rw [foldl_flag_iff noStore_apply]
    simp
  · rw [foldl_flag_iff noCache_apply]
    simp

/-- Directives read from the line `no-store, max-age=5`: `no-store` is one of them. -/
theorem cacheControl_reads_no_store_line :
    ofHeaders ⟨[(Http.HeaderName.cacheControl,
        ⟨"no-store, max-age=5".toList.map fun c => c.toNat.toUInt8⟩)]⟩ = some ⟨some 5, true, false⟩ ∧
      ∃ x ∈ cacheControlDirectives ⟨[(Http.HeaderName.cacheControl,
        ⟨"no-store, max-age=5".toList.map fun c => c.toNat.toUInt8⟩)]⟩, Names "no-store" x := by
  have read : ofHeaders ⟨[(Http.HeaderName.cacheControl,
      ⟨"no-store, max-age=5".toList.map fun c => c.toNat.toUInt8⟩)]⟩ = some ⟨some 5, true, false⟩ := by
    decide
  exact ⟨read, (((cacheControl_reads_last_max_age _).2 _ read).2.1).mp rfl⟩

/-- A signed max-age is read: the argument `+5` of the only directive is no string of ASCII
digits, yet the line `max-age=+5` gives five seconds. -/
theorem signed_max_age_gives_seconds :
    directiveArgument "max-age=+5" = some "+5" ∧ "+5".toList.all Char.isDigit = false ∧
      ofHeaders ⟨[(Http.HeaderName.cacheControl,
        ⟨"max-age=+5".toList.map fun c => c.toNat.toUInt8⟩)]⟩ = some { maxAge := some 5 } := by
  decide

end Directives

end Freshness

end ResponseCache
