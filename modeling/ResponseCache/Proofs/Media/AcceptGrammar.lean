import Mathlib.Data.List.Induction
import Mathlib.Algebra.Group.Nat.Defs
import ResponseCache.Media.Accept
import ResponseCache.Proofs.Text.Elements
/-!
# The grammar of Accept headers

An Accept header is read element by element: the value is split at every comma, the pieces are
trimmed and the empty ones dropped. An element is a media range followed by `;`-separated
parameters. It is kept when its media range reads and every `q` parameter holds a quality value
of RFC 9110, and its quality is that of its last `q` parameter, 1000 when it has none. A header
none of whose elements is kept accepts anything.

The rules are stated here apart from the reader: `QValue` is the grammar of quality values with
the thousandths each stands for, `IsQParam` says what a `q` parameter is, and `LastQuality` which
of them sets the quality. Each reading function accepts exactly its part of the grammar
(`parseQuality?_eq_some_iff`, `qualityOfParams_eq_some_iff`, `MediaRange.parse?_eq_some_iff`).
-/

namespace ResponseCache

namespace Text

theorem splitOnceList_eq_some_iff {sep : Char} {cs front back : List Char} :
    splitOnceList sep cs = some (front, back) ↔ cs = front ++ sep :: back ∧ sep ∉ front := by
  constructor
  · intro split
    induction cs generalizing front with
    | nil => cases split
    | cons c rest ih =>
        by_cases here : c = sep
        · rw [splitOnceList, if_pos here] at split
          cases split
          exact ⟨by rw [here]; rfl, List.not_mem_nil⟩
        · rw [splitOnceList, if_neg here] at split
          obtain ⟨⟨front', back'⟩, inner, same⟩ := Option.map_eq_some_iff.mp split
          simp only [Prod.mk.injEq] at same
          obtain ⟨rfl, rfl⟩ := same
          obtain ⟨rfl, absent⟩ := ih inner
          exact ⟨rfl, fun member => (List.mem_cons.mp member).elim (fun e => here e.symm) absent⟩
  · rintro ⟨rfl, absent⟩
    exact splitOnceList_append sep front back absent

theorem splitOnceList_eq_none_iff {sep : Char} {cs : List Char} :
    splitOnceList sep cs = none ↔ sep ∉ cs := by
  induction cs with
  | nil => simp [splitOnceList]
  | cons c rest ih =>
      by_cases here : c = sep
      · simp [splitOnceList, here]
      · simp [splitOnceList, here, ih, Ne.symm here]

theorem splitOnce_eq_some_iff {sep : Char} {s front back : String} :
    splitOnce sep s = some (front, back) ↔
      s.toList = front.toList ++ sep :: back.toList ∧ sep ∉ front.toList := by
  constructor
  · intro split
    obtain ⟨⟨f, b⟩, inner, same⟩ := Option.map_eq_some_iff.mp split
    simp only [Prod.mk.injEq] at same
    obtain ⟨rfl, rfl⟩ := same
    simpa using splitOnceList_eq_some_iff.mp inner
  · rintro ⟨spelled, absent⟩
    rw [splitOnce, spelled, splitOnceList_append sep _ _ absent]
    simp

theorem splitOnce_eq_none_iff {sep : Char} {s : String} :
    splitOnce sep s = none ↔ sep ∉ s.toList := by
  rw [splitOnce, Option.map_eq_none_iff, splitOnceList_eq_none_iff]

theorem splitAll_ne_nil (sep : Char) (s : String) : splitAll sep s ≠ [] := by
  rw [splitAll, Ne, List.map_eq_nil_iff]
  exact List.splitOn_ne_nil sep s.toList

theorem digitsValue_concat (cs : List Char) (c : Char) :
    digitsValue (cs ++ [c]) = digitsValue cs * 10 + (c.toNat - 48) := by
  rw [digitsValue, List.foldl_append, List.foldl_cons, List.foldl_nil]
  rfl

/-- Zeros written after a numeral multiply its value by ten each. -/
theorem digitsValue_append_zeros (cs : List Char) (zeros : Nat) :
    digitsValue (cs ++ List.replicate zeros '0') = digitsValue cs * 10 ^ zeros := by
  induction zeros with
  | zero => simp
  | succ zeros ih =>
      have zero : '0'.toNat - 48 = 0 := rfl
      rw [List.replicate_succ', ← List.append_assoc, digitsValue_concat, ih, pow_succ, zero,
        Nat.add_zero, Nat.mul_assoc]

/-- A numeral of `n` digits is below `10 ^ n`. -/
theorem digitsValue_lt {cs : List Char} (numeral : ∀ d ∈ cs, d.isDigit = true) :
    digitsValue cs < 10 ^ cs.length := by
  induction cs using List.reverseRecOn with
  | nil => decide
  | append_singleton cs c ih =>
      have earlier := ih fun d member => numeral d (List.mem_append_left _ member)
      have digit := numeral c (List.mem_append_right _ (List.mem_singleton_self _))
      simp only [Char.isDigit, Bool.and_eq_true, decide_eq_true_eq, UInt32.le_iff_toNat_le] at digit
      have high : c.toNat ≤ 57 := digit.2
      rw [digitsValue_concat, List.length_append, List.length_singleton, pow_succ]
      omega

/-- A list of ASCII digits makes a text of one byte a digit. -/
theorem utf8ByteSize_ofList_of_digits (cs : List Char) (numeral : ∀ d ∈ cs, d.isDigit = true) :
    (String.ofList cs).utf8ByteSize = cs.length := by
  induction cs with
  | nil => rfl
  | cons d rest ih =>
      have digit := numeral d List.mem_cons_self
      simp only [Char.isDigit, Bool.and_eq_true, decide_eq_true_eq] at digit
      have one : d.utf8Size = 1 := Char.utf8Size_eq_one_iff.mpr (UInt32.le_trans digit.2 (by decide))
      rw [String.ofList_cons, String.utf8ByteSize_append, String.utf8ByteSize_singleton, one,
        ih fun e member => numeral e (List.mem_cons_of_mem _ member), List.length_cons, Nat.add_comm]

theorem utf8ByteSize_of_digits {s : String} (numeral : ∀ d ∈ s.toList, d.isDigit = true) :
    s.utf8ByteSize = s.length := by
  rw [← String.ofList_toList (s := s), utf8ByteSize_ofList_of_digits _ numeral, String.length_ofList,
    String.length_toList]

end Text

namespace Media

open Text

/-! ## Quality values -/

/-- The quality values of RFC 9110 as texts, with the thousandths each stands for: `0` or `1`,
optionally followed by a point and at most three decimals, which after a `1` are zeros. -/
inductive QValue : String → Nat → Prop
  | zero : QValue "0" 0
  /-- `0.` and at most three decimals: the fraction they write, in thousandths. -/
  | decimal {digits : List Char} {q : Nat} (short : digits.length ≤ 3)
      (numeral : ∀ d ∈ digits, d.isDigit = true)
      (value : q * 10 ^ digits.length = 1000 * digitsValue digits) :
      QValue (String.ofList ('0' :: '.' :: digits)) q
  | one : QValue "1" 1000
  /-- `1.` and at most three zeros. -/
  | unit {zeros : Nat} (short : zeros ≤ 3) :
      QValue (String.ofList ('1' :: '.' :: List.replicate zeros '0')) 1000

theorem QValue.le_thousand {s : String} {q : Nat} : QValue s q → q ≤ 1000
  | .zero | .one | .unit _ => by decide
  | @QValue.decimal digits _ _ numeral value => by
      have below := digitsValue_lt numeral
      have scaled : q * 10 ^ digits.length < 1000 * 10 ^ digits.length := by
        rw [value]
        exact Nat.mul_lt_mul_of_pos_left below (by decide)
      exact Nat.le_of_lt (Nat.lt_of_mul_lt_mul_right scaled)

/-- The quality a value gives once split at its first point into whole and fraction parts. -/
def qualityOfParts (whole frac : String) : Option Nat :=
  if frac.utf8ByteSize > 3 || !frac.toList.all Char.isDigit then none
  else if whole == "0" then
    some (digitsValue (frac.toList ++ List.replicate (3 - frac.length) '0'))
  else if whole == "1" && frac.toList.all (· == '0') then some maxQuality
  else none

theorem parseQuality?_of_split {value whole frac : String}
    (split : splitOnce '.' value = some (whole, frac)) :
    parseQuality? value = qualityOfParts whole frac := by
  unfold parseQuality?
  rw [split]
  rfl

theorem parseQuality?_of_no_point {value : String} (unsplit : splitOnce '.' value = none) :
    parseQuality? value = qualityOfParts value "" := by
  unfold parseQuality?
  rw [unsplit]
  rfl

/-- What the parts of a value must be for it to give a quality. -/
theorem qualityOfParts_eq_some {whole frac : String} {q : Nat}
    (read : qualityOfParts whole frac = some q) :
    frac.length ≤ 3 ∧ (∀ d ∈ frac.toList, d.isDigit = true) ∧
      ((whole = "0" ∧ q * 10 ^ frac.length = 1000 * digitsValue frac.toList) ∨
        (whole = "1" ∧ (∀ d ∈ frac.toList, d = '0') ∧ q = 1000)) := by
  unfold qualityOfParts at read
  split at read
  · cases read
  · rename_i wellFormed
    have ok : (frac.utf8ByteSize > 3 || !frac.toList.all Char.isDigit) = false := by
      simpa using wellFormed
    rw [Bool.or_eq_false_iff] at ok
    have numeral : ∀ d ∈ frac.toList, d.isDigit = true :=
      List.all_eq_true.mp (by simpa using ok.2)
    have short : frac.length ≤ 3 := by
      have size : frac.utf8ByteSize ≤ 3 := by simpa using ok.1
      rw [utf8ByteSize_of_digits numeral] at size
      exact size
    refine ⟨short, numeral, ?_⟩
    split at read
    · rename_i zero
      cases read
      refine .inl ⟨by simpa using zero, ?_⟩
      rw [digitsValue_append_zeros, Nat.mul_assoc, ← pow_add, Nat.sub_add_cancel short,
        Nat.mul_comm]
      rfl
    · split at read
      · rename_i unit
        cases read
        simp only [Bool.and_eq_true, beq_iff_eq, List.all_eq_true] at unit
        exact .inr ⟨unit.1, fun d member => by simpa using unit.2 d member, rfl⟩
      · cases read

/-- The parts of a value whose fraction is a short numeral: after `0` the fraction padded to three
places, after `1` full quality when the fraction is zeros. -/
theorem qualityOfParts_of_digits (whole : String) {ds : List Char} (short : ds.length ≤ 3)
    (numeral : ∀ d ∈ ds, d.isDigit = true) :
    qualityOfParts whole (String.ofList ds) =
      if whole = "0" then some (digitsValue (ds ++ List.replicate (3 - ds.length) '0'))
      else if whole = "1" ∧ ds.all (· == '0') = true then some maxQuality else none := by
  unfold qualityOfParts
  rw [utf8ByteSize_ofList_of_digits ds numeral, String.toList_ofList, String.length_ofList,
    List.all_eq_true.mpr numeral, if_neg (by simpa using short)]
  simp only [beq_iff_eq, Bool.and_eq_true]

/-- Reading a quality value accepts exactly the grammar of RFC 9110. -/
theorem parseQuality?_eq_some_iff {value : String} {q : Nat} :
    parseQuality? value = some q ↔ QValue value q := by
  constructor
  · intro read
    cases split : splitOnce '.' value with
    | none =>
        rw [parseQuality?_of_no_point split] at read
        obtain ⟨-, -, zero | unit⟩ := qualityOfParts_eq_some read
        · obtain ⟨rfl, scaled⟩ := zero
          have nothing : q = 0 := by simpa [digitsValue] using scaled
          rw [nothing]
          exact .zero
        · obtain ⟨rfl, -, rfl⟩ := unit
          exact .one
    | some parts =>
        obtain ⟨whole, frac⟩ := parts
        obtain ⟨spelled, -⟩ := splitOnce_eq_some_iff.mp split
        rw [parseQuality?_of_split split] at read
        obtain ⟨short, numeral, zero | unit⟩ := qualityOfParts_eq_some read
        · obtain ⟨rfl, scaled⟩ := zero
          have same : value = String.ofList ('0' :: '.' :: frac.toList) := by
            rw [← String.toList_inj, spelled]
            simp
          rw [same]
          exact .decimal (by rwa [String.length_toList]) numeral (by rwa [String.length_toList])
        · obtain ⟨rfl, zeros, rfl⟩ := unit
          have replicated : frac.toList = List.replicate frac.length '0' :=
            List.eq_replicate_iff.mpr ⟨String.length_toList, zeros⟩
          have same : value = String.ofList ('1' :: '.' :: List.replicate frac.length '0') := by
            rw [← String.toList_inj, spelled, ← replicated]
            simp
          rw [same]
          exact .unit short
  · intro grammar
    cases grammar with
    | zero => decide
    | one => decide
    | decimal short numeral scaled =>
        rename_i digits
        have split : splitOnce '.' (String.ofList ('0' :: '.' :: digits)) =
            some ("0", String.ofList digits) :=
          splitOnce_eq_some_iff.mpr ⟨by simp, by decide⟩
        rw [parseQuality?_of_split split, qualityOfParts_of_digits "0" short numeral, if_pos rfl,
          digitsValue_append_zeros]
        congr 1
        apply Nat.eq_of_mul_eq_mul_right (Nat.pow_pos (by decide) : 0 < 10 ^ digits.length)
        rw [scaled, Nat.mul_assoc, ← pow_add, Nat.sub_add_cancel short, Nat.mul_comm]
        rfl
    | unit short =>
        rename_i zeros
        have zero : ∀ d ∈ List.replicate zeros '0', d = '0' := fun d member =>
          List.eq_of_mem_replicate member
        have split : splitOnce '.' (String.ofList ('1' :: '.' :: List.replicate zeros '0')) =
            some ("1", String.ofList (List.replicate zeros '0')) :=
          splitOnce_eq_some_iff.mpr ⟨by simp, by decide⟩
        have numeral : ∀ d ∈ List.replicate zeros '0', d.isDigit = true := fun d member => by
          rw [zero d member]
          rfl
        have allZero : (List.replicate zeros '0').all (· == '0') = true :=
          List.all_eq_true.mpr fun d member => by rw [zero d member]; rfl
        rw [parseQuality?_of_split split, qualityOfParts_of_digits "1"
          (by rwa [List.length_replicate]) numeral, if_neg (by decide), if_pos ⟨rfl, allZero⟩]
        rfl

-- Two decimals are padded to thousandths; after `1` only zeros may follow the point.
example : parseQuality? "0.05" = some 50 ∧ parseQuality? "1.001" = none := by decide

/-! ## Parameters -/

/-- `param` is a `q` parameter with argument `arg`: a name, `=` and a value, where the name holds
no `=` and is `q` in either case once trimmed, and `arg` is the trimmed value. -/
def IsQParam (param arg : String) : Prop :=
  ∃ name value : String, param.toList = name.toList ++ '=' :: value.toList ∧
    '=' ∉ name.toList ∧ eqIgnoreCase (trim name) "q" = true ∧ arg = trim value

theorem isQParam_iff {param arg : String} :
    IsQParam param arg ↔ ∃ name value, splitOnce '=' param = some (name, value) ∧
      eqIgnoreCase (trim name) "q" = true ∧ arg = trim value := by
  constructor
  · rintro ⟨name, value, spelled, absent, named, rfl⟩
    exact ⟨name, value, splitOnce_eq_some_iff.mpr ⟨spelled, absent⟩, named, rfl⟩
  · rintro ⟨name, value, split, named, rfl⟩
    obtain ⟨spelled, absent⟩ := splitOnce_eq_some_iff.mp split
    exact ⟨name, value, spelled, absent, named, rfl⟩

theorem IsQParam.unique {param a b : String} (first : IsQParam param a)
    (second : IsQParam param b) : a = b := by
  obtain ⟨name, value, split, -, rfl⟩ := isQParam_iff.mp first
  obtain ⟨name', value', split', -, rfl⟩ := isQParam_iff.mp second
  rw [split] at split'
  cases split'
  rfl

/-- Every `q` parameter holds a quality value. -/
def QValid (params : List String) : Prop :=
  ∀ param ∈ params, ∀ arg, IsQParam param arg → ∃ q, QValue arg q

/-- The quality parameters set: that of the last `q` parameter, or 1000 when there is none. -/
inductive LastQuality : List String → Nat → Prop
  /-- No `q` parameter. -/
  | unset {params : List String} (none : ∀ param ∈ params, ∀ arg, ¬IsQParam param arg) :
      LastQuality params 1000
  /-- A `q` parameter with no other after it. -/
  | last {before after : List String} {param arg : String} {q : Nat} (isQ : IsQParam param arg)
      (value : QValue arg q) (later : ∀ p ∈ after, ∀ a, ¬IsQParam p a) :
      LastQuality (before ++ param :: after) q

theorem LastQuality.le_thousand {params : List String} {q : Nat} :
    LastQuality params q → q ≤ 1000
  | .unset _ => Nat.le_refl _
  | .last _ value _ => value.le_thousand

/-- What a quality set by parameters can be: 1000 with no `q` parameter, or the value of a `q`
parameter with none after it. -/
theorem lastQuality_iff {params : List String} {q : Nat} :
    LastQuality params q ↔ ((∀ param ∈ params, ∀ arg, ¬IsQParam param arg) ∧ q = 1000) ∨
      ∃ before param after arg, params = before ++ param :: after ∧ IsQParam param arg ∧
        QValue arg q ∧ ∀ p ∈ after, ∀ a, ¬IsQParam p a := by
  constructor
  · intro last
    cases last with
    | unset absent => exact .inl ⟨absent, rfl⟩
    | last isQ value later => exact .inr ⟨_, _, _, _, rfl, isQ, value, later⟩
  · rintro (⟨absent, rfl⟩ | ⟨before, param, after, arg, rfl, isQ, value, later⟩)
    · exact .unset absent
    · exact .last isQ value later

theorem lastQuality_nil {q : Nat} : LastQuality [] q ↔ q = 1000 := by
  rw [lastQuality_iff]
  constructor
  · rintro (⟨-, same⟩ | ⟨before, param, after, arg, spelled, -⟩)
    · exact same
    · exact absurd spelled.symm (by simp)
  · exact fun same => .inl ⟨(fun _ member => by cases member), same⟩

/-- An element added last to `l` that stands before `after`: either it is that element and `after`
is empty, or `after` ends with it. -/
theorem concat_eq_append_cons {α : Type} {l before after : List α} {x y : α}
    (spelled : l ++ [x] = before ++ y :: after) :
    (after = [] ∧ l = before ∧ x = y) ∨ ∃ rest, after = rest ++ [x] ∧ l = before ++ y :: rest := by
  rcases List.eq_nil_or_concat after with rfl | ⟨rest, z, rfl⟩
  · obtain ⟨same, last⟩ := List.append_inj' spelled rfl
    cases last
    exact .inl ⟨rfl, same, rfl⟩
  · simp only [List.concat_eq_append] at spelled ⊢
    rw [← List.cons_append, ← List.append_assoc] at spelled
    obtain ⟨same, last⟩ := List.append_inj' spelled rfl
    cases last
    exact .inr ⟨rest, rfl, same⟩

section Concat

variable {l : List String} {p : String} {q : Nat}

/-- A `q` parameter added last sets the quality. -/
theorem lastQuality_concat_of_isQParam {arg : String} (isQ : IsQParam p arg) :
    LastQuality (l ++ [p]) q ↔ QValue arg q := by
  rw [lastQuality_iff]
  constructor
  · rintro (⟨absent, -⟩ | ⟨before, param, after, arg', spelled, isQ', value, later⟩)
    · exact absurd isQ (absent p (List.mem_append_right _ (List.mem_singleton_self _)) arg)
    · rcases concat_eq_append_cons spelled with ⟨-, -, rfl⟩ | ⟨rest, rfl, -⟩
      · rwa [isQ.unique isQ']
      · exact absurd isQ (later p (List.mem_append_right _ (List.mem_singleton_self _)) arg)
  · intro value
    exact .inr ⟨l, p, [], arg, rfl, isQ, value, fun _ member => by cases member⟩

/-- A parameter added last that is not a `q` parameter changes nothing. -/
theorem lastQuality_concat_of_not (notQ : ∀ a, ¬IsQParam p a) :
    LastQuality (l ++ [p]) q ↔ LastQuality l q := by
  rw [lastQuality_iff, lastQuality_iff]
  constructor
  · rintro (⟨absent, rfl⟩ | ⟨before, param, after, arg, spelled, isQ, value, later⟩)
    · exact .inl ⟨fun param member => absent param (List.mem_append_left _ member), rfl⟩
    · rcases concat_eq_append_cons spelled with ⟨-, -, rfl⟩ | ⟨rest, rfl, rfl⟩
      · exact absurd isQ (notQ arg)
      · exact .inr ⟨before, param, rest, arg, rfl, isQ, value,
          fun a member => later a (List.mem_append_left _ member)⟩
  · rintro (⟨absent, rfl⟩ | ⟨before, param, after, arg, rfl, isQ, value, later⟩)
    · refine .inl ⟨fun param member => ?_, rfl⟩
      rcases List.mem_append.mp member with earlier | added
      · exact absent param earlier
      · rw [List.mem_singleton.mp added]
        exact notQ
    · refine .inr ⟨before, param, after ++ [p], arg, by simp, isQ, value, fun a member => ?_⟩
      rcases List.mem_append.mp member with earlier | added
      · exact later a earlier
      · rw [List.mem_singleton.mp added]
        exact notQ

theorem qValid_concat :
    QValid (l ++ [p]) ↔ QValid l ∧ ∀ arg, IsQParam p arg → ∃ q, QValue arg q := by
  simp only [QValid, List.mem_append, List.mem_singleton, or_imp, forall_and, forall_eq]

end Concat

theorem exists_lastQuality {params : List String} (valid : QValid params) :
    ∃ q, LastQuality params q := by
  induction params using List.reverseRecOn with
  | nil => exact ⟨1000, lastQuality_nil.mpr rfl⟩
  | append_singleton l p ih =>
      obtain ⟨earlier, added⟩ := qValid_concat.mp valid
      by_cases isQ : ∃ arg, IsQParam p arg
      · obtain ⟨arg, isQ⟩ := isQ
        obtain ⟨q, value⟩ := added arg isQ
        exact ⟨q, (lastQuality_concat_of_isQParam isQ).mpr value⟩
      · obtain ⟨q, last⟩ := ih earlier
        exact ⟨q, (lastQuality_concat_of_not (not_exists.mp isQ)).mpr last⟩

/-- One parameter, as the reader takes it in. -/
def qualityStep (acc : Option Nat) (param : String) : Option Nat :=
  acc.bind fun q =>
    match splitOnce '=' param with
    | none => some q
    | some (name, value) =>
      if eqIgnoreCase (trim name) "q" then parseQuality? (trim value) else some q

theorem qualityOfParams_eq (params : List String) :
    qualityOfParams params = params.foldl qualityStep (some maxQuality) := rfl

/-- A parameter is a `q` parameter, whose argument the reader reads in place of the quality so
far, or it is not one and the reader passes it by. -/
theorem qualityStep_cases (param : String) :
    (∃ arg, IsQParam param arg ∧ ∀ acc, qualityStep acc param = acc.bind fun _ => parseQuality? arg) ∨
      ((∀ arg, ¬IsQParam param arg) ∧ ∀ acc, qualityStep acc param = acc) := by
  cases split : splitOnce '=' param with
  | none =>
      refine .inr ⟨fun arg isQ => ?_, fun acc => by simp [qualityStep, split]⟩
      obtain ⟨name, value, split', -⟩ := isQParam_iff.mp isQ
      rw [split] at split'
      cases split'
  | some parts =>
      obtain ⟨name, value⟩ := parts
      by_cases named : eqIgnoreCase (trim name) "q" = true
      · exact .inl ⟨trim value, isQParam_iff.mpr ⟨name, value, split, named, rfl⟩,
          fun acc => by simp [qualityStep, split, named]⟩
      · refine .inr ⟨fun arg isQ => ?_, fun acc => by simp [qualityStep, split, named]⟩
        obtain ⟨name', value', split', named', -⟩ := isQParam_iff.mp isQ
        rw [split] at split'
        cases split'
        exact named named'

/-- Reading the parameters accepts those whose `q` parameters all hold quality values, with the
quality of the last. -/
theorem qualityOfParams_eq_some_iff {params : List String} {q : Nat} :
    qualityOfParams params = some q ↔ QValid params ∧ LastQuality params q := by
  induction params using List.reverseRecOn generalizing q with
  | nil =>
      rw [lastQuality_nil, qualityOfParams_eq, List.foldl_nil, Option.some.injEq, eq_comm]
      exact ⟨fun same => ⟨(fun _ member => by cases member), same⟩, fun both => both.2⟩
  | append_singleton l p ih =>
      rw [qualityOfParams_eq, List.foldl_append, List.foldl_cons, List.foldl_nil,
        ← qualityOfParams_eq, qValid_concat]
      rcases qualityStep_cases p with ⟨arg, isQ, step⟩ | ⟨notQ, step⟩
      · rw [step, lastQuality_concat_of_isQParam isQ, Option.bind_eq_some_iff,
          parseQuality?_eq_some_iff]
        constructor
        · rintro ⟨q₀, before, value⟩
          exact ⟨⟨(ih.mp before).1, fun a isQ' => ⟨q, isQ.unique isQ' ▸ value⟩⟩, value⟩
        · rintro ⟨⟨valid, -⟩, value⟩
          obtain ⟨q₀, last⟩ := exists_lastQuality valid
          exact ⟨q₀, ih.mpr ⟨valid, last⟩, value⟩
      · rw [step, ih, lastQuality_concat_of_not notQ]
        exact ⟨fun both => ⟨⟨both.1, fun arg isQ => absurd isQ (notQ arg)⟩, both.2⟩,
          fun both => ⟨both.1.1, both.2⟩⟩

/-! ## Elements and headers -/

/-- An element read as a range: its first `;`-separated segment is a media range, every `q`
parameter among the other segments holds a quality value, and the last sets the quality. -/
def ReadsAs (element : String) (r : MediaRange) : Prop :=
  ∃ first params, splitAll ';' element = first :: params ∧ MediaType.parse? first = some r.media ∧
    QValid params ∧ LastQuality params r.quality

theorem MediaRange.parse?_eq_some_iff {element : String} {r : MediaRange} :
    MediaRange.parse? element = some r ↔ ReadsAs element r := by
  cases split : splitAll ';' element with
  | nil => exact absurd split (splitAll_ne_nil ';' element)
  | cons first params =>
      have reads : ReadsAs element r ↔ MediaType.parse? first = some r.media ∧
          QValid params ∧ LastQuality params r.quality := by
        simp only [ReadsAs, split, List.cons.injEq]
        constructor
        · rintro ⟨_, _, ⟨rfl, rfl⟩, rest⟩
          exact rest
        · exact fun rest => ⟨first, params, ⟨rfl, rfl⟩, rest⟩
      have read : MediaRange.parse? element = (MediaType.parse? first).bind fun media =>
          (qualityOfParams params).bind fun q => some ⟨media, min q maxQuality⟩ := by
        unfold MediaRange.parse?
        rw [split]
        rfl
      rw [reads, read, Option.bind_eq_some_iff]
      constructor
      · rintro ⟨media, parsed, quality⟩
        obtain ⟨q, paramsRead, built⟩ := Option.bind_eq_some_iff.mp quality
        obtain rfl := Option.some.inj built
        obtain ⟨valid, last⟩ := qualityOfParams_eq_some_iff.mp paramsRead
        refine ⟨parsed, valid, ?_⟩
        show LastQuality params (min q maxQuality)
        rwa [maxQuality, Nat.min_eq_left last.le_thousand]
      · rintro ⟨parsed, valid, last⟩
        refine ⟨r.media, parsed, Option.bind_eq_some_iff.mpr ⟨r.quality,
          qualityOfParams_eq_some_iff.mpr ⟨valid, last⟩, ?_⟩⟩
        rw [maxQuality, Nat.min_eq_left last.le_thousand]

/-- The ranges a list of elements reads as: those of the elements that read, in order. -/
inductive ReadsAll : List String → List MediaRange → Prop
  | nil : ReadsAll [] []
  /-- An element that reads comes first. -/
  | read {element : String} {r : MediaRange} {elements : List String} {ranges : List MediaRange}
      (reads : ReadsAs element r) (rest : ReadsAll elements ranges) :
      ReadsAll (element :: elements) (r :: ranges)
  /-- An element that does not read is dropped. -/
  | skip {element : String} {elements : List String} {ranges : List MediaRange}
      (unread : ∀ r, ¬ReadsAs element r) (rest : ReadsAll elements ranges) :
      ReadsAll (element :: elements) ranges

theorem readsAll_filterMap (elements : List String) :
    ReadsAll elements (elements.filterMap MediaRange.parse?) := by
  induction elements with
  | nil => exact .nil
  | cons element rest ih =>
      rw [List.filterMap_cons]
      cases parsed : MediaRange.parse? element with
      | none =>
          refine .skip (fun r reads => ?_) ih
          rw [← MediaRange.parse?_eq_some_iff, parsed] at reads
          cases reads
      | some r => exact .read (MediaRange.parse?_eq_some_iff.mp parsed) ih

theorem ReadsAll.eq_filterMap {elements : List String} {ranges : List MediaRange}
    (reads : ReadsAll elements ranges) : ranges = elements.filterMap MediaRange.parse? := by
  induction reads with
  | nil => rfl
  | read reads _ ih => rw [List.filterMap_cons, MediaRange.parse?_eq_some_iff.mpr reads, ih]
  | skip unread _ ih =>
      rw [List.filterMap_cons]
      cases parsed : MediaRange.parse? _ with
      | none => exact ih
      | some r => exact absurd (MediaRange.parse?_eq_some_iff.mp parsed) (unread r)

theorem Accept.parse_eq (v : String) :
    Accept.parse v = if (elements ',' v).filterMap MediaRange.parse? = [] then Accept.any
      else ⟨(elements ',' v).filterMap MediaRange.parse?⟩ := by
  unfold Accept.parse
  simp only [List.isEmpty_iff]
  rfl

/-- An Accept header reads as its grammar says: the elements that read, in order, each with the
quality of its last `q` parameter, or `*/*` at full quality when none reads; no quality is above
1000. -/
theorem parse_reads_grammar (v : String) :
    (∃ ranges, ReadsAll (elements ',' v) ranges) ∧
      (∀ ranges, ReadsAll (elements ',' v) ranges →
        (Accept.parse v).ranges =
          if ranges = [] then [⟨MediaType.any, 1000⟩] else ranges) ∧
      ∀ r ∈ (Accept.parse v).ranges, r.quality ≤ 1000 := by
  have bounded : ∀ r ∈ (elements ',' v).filterMap MediaRange.parse?, r.quality ≤ 1000 := by
    intro r member
    obtain ⟨element, -, parsed⟩ := List.mem_filterMap.mp member
    obtain ⟨_, _, _, _, _, last⟩ := MediaRange.parse?_eq_some_iff.mp parsed
    exact last.le_thousand
  refine ⟨⟨_, readsAll_filterMap _⟩, fun ranges reads => ?_, fun r member => ?_⟩
  · rw [reads.eq_filterMap, Accept.parse_eq]
    split <;> rfl
  · rw [Accept.parse_eq] at member
    split at member
    · rw [List.mem_singleton.mp member]
      decide
    · exact bounded r member

end Media

end ResponseCache
