import ResponseCache.Http.Header
/-!
# Header values that read as text

A header value reads as text when every byte is a tab, a space or a visible ASCII character. A
text made only of such characters is written into a value one byte per character, and that value
is a valid value that reads back as the same text (`ofBytes?_ofText`, `text?_ofText`); and every
text a value reads as is made only of such characters (`isValueText_of_text?`). These are the
facts that let a line of a stored answer be read, rewritten and written again without loss.
-/

namespace ResponseCache

namespace Http

/-- A character a header value reads as text: a tab, or a visible ASCII character or space. -/
def IsTextChar (c : Char) : Prop := c.toNat = 9 ∨ (32 ≤ c.toNat ∧ c.toNat < 127)

/-- A text made only of characters that a header value reads as text. -/
def IsValueText (s : String) : Prop := ∀ c ∈ s.toList, IsTextChar c

theorem ByteArray.toList_loop_eq (bs : ByteArray) (i : Nat) (r : List UInt8) :
    ByteArray.toList.loop bs i r = r.reverse ++ bs.data.toList.drop i := by
  fun_induction ByteArray.toList.loop bs i r with
  | case1 i r inside ih =>
      have bound : i < bs.data.toList.length := by simpa using inside
      rw [ih, List.drop_eq_getElem_cons bound]
      simp [ByteArray.get!, inside]
  | case2 i r outside =>
      rw [List.drop_eq_nil_of_le (by simpa using Nat.le_of_not_lt outside), List.append_nil]

theorem ByteArray.toList_eq (bs : ByteArray) : bs.toList = bs.data.toList := by
  simp only [ByteArray.toList, ByteArray.toList_loop_eq, List.reverse_nil, List.nil_append,
    List.drop_zero]

/-- The bytes of a text are the UTF-8 encodings of its characters. -/
theorem HeaderValue.bytes_ofText (s : String) :
    (HeaderValue.ofText s).bytes = s.toList.flatMap String.utf8EncodeChar := by
  have encoded : s.toByteArray = s.toList.utf8Encode := by
    rw [← String.toByteArray_ofList, String.ofList_toList]
  rw [HeaderValue.ofText, String.toUTF8_eq_toByteArray, encoded, List.utf8Encode,
    ByteArray.toList_eq, List.toList_data_toByteArray]

theorem IsTextChar.toNat_lt {c : Char} (text : IsTextChar c) : c.toNat < 128 := by
  unfold IsTextChar at text
  omega

theorem toNat_toUInt8 (c : Char) : c.toUInt8.toNat = c.toNat % 256 :=
  (UInt32.toNat_toUInt8 c.val).trans (congrArg (· % 256) Char.toNat_val)

/-- An ASCII character is encoded as the one byte of its code. -/
theorem utf8EncodeChar_of_lt {c : Char} (ascii : c.toNat < 128) :
    String.utf8EncodeChar c = [c.toUInt8] := by
  have single : c.utf8Size = 1 := by
    rw [Char.utf8Size_eq_one_iff, UInt32.le_iff_toNat_le, Char.toNat_val]
    exact Nat.le_of_lt_succ ascii
  rw [String.utf8EncodeChar_eq_singleton single, Char.toUInt8_val]

theorem HeaderValue.bytes_ofText_of_isValueText {s : String} (text : IsValueText s) :
    (HeaderValue.ofText s).bytes = s.toList.map Char.toUInt8 := by
  rw [HeaderValue.bytes_ofText, List.flatMap_eq_foldl]
  suffices each : ∀ (cs : List Char) (acc : List UInt8), (∀ c ∈ cs, IsTextChar c) →
      cs.foldl (fun acc c => acc ++ String.utf8EncodeChar c) acc = acc ++ cs.map Char.toUInt8 by
    simpa using each s.toList [] text
  intro cs
  induction cs with
  | nil => simp
  | cons c rest ih =>
      intro acc textual
      rw [List.foldl_cons, utf8EncodeChar_of_lt (textual c List.mem_cons_self).toNat_lt,
        ih _ fun d later => textual d (List.mem_cons_of_mem _ later)]
      simp

theorem HeaderValue.isTextByte_iff (b : UInt8) :
    HeaderValue.isTextByte b = true ↔ b.toNat = 9 ∨ (32 ≤ b.toNat ∧ b.toNat < 127) := by
  simp only [HeaderValue.isTextByte, Bool.or_eq_true, Bool.and_eq_true, decide_eq_true_eq,
    beq_iff_eq, UInt8.le_iff_toNat_le, UInt8.lt_iff_toNat_lt]
  constructor
  · rintro (nine | wide)
    · exact .inl (by rw [nine]; rfl)
    · exact .inr wide
  · rintro (nine | wide)
    · exact .inl (UInt8.toNat_inj.mp nine)
    · exact .inr wide

theorem isTextByte_toUInt8 {c : Char} (text : IsTextChar c) :
    HeaderValue.isTextByte c.toUInt8 = true := by
  rw [HeaderValue.isTextByte_iff, toNat_toUInt8, Nat.mod_eq_of_lt (by have := text.toNat_lt; omega)]
  exact text

/-- A text of value characters, written into a value, reads back as itself. -/
theorem HeaderValue.text?_ofText {s : String} (text : IsValueText s) :
    (HeaderValue.ofText s).text? = some s := by
  have textual : s.toList.all (HeaderValue.isTextByte ∘ Char.toUInt8) = true :=
    List.all_eq_true.mpr fun c member => isTextByte_toUInt8 (text c member)
  rw [HeaderValue.text?, HeaderValue.bytes_ofText_of_isValueText text, List.all_map, textual,
    if_pos rfl, List.map_map]
  have back : ∀ c ∈ s.toList, ((fun b : UInt8 => Char.ofNat b.toNat) ∘ Char.toUInt8) c = c := by
    intro c member
    rw [Function.comp_apply, toNat_toUInt8,
      Nat.mod_eq_of_lt (by have := (text c member).toNat_lt; omega), Char.ofNat_toNat]
  rw [List.map_congr_left back, List.map_id', String.ofList_toList]

/-- A text of value characters makes a valid value. -/
theorem HeaderValue.ofBytes?_ofText {s : String} (text : IsValueText s) :
    HeaderValue.ofBytes? (HeaderValue.ofText s).bytes = some (HeaderValue.ofText s) := by
  rw [HeaderValue.ofBytes?, if_pos]
  rw [HeaderValue.bytes_ofText_of_isValueText text, List.all_map, List.all_eq_true]
  intro c member
  have code := (HeaderValue.isTextByte_iff _).mp (isTextByte_toUInt8 (text c member))
  simp only [Function.comp, HeaderValue.isValueByte, Bool.or_eq_true, Bool.and_eq_true,
    decide_eq_true_eq, bne_iff_ne, ne_eq, beq_iff_eq, UInt8.le_iff_toNat_le]
  rcases code with nine | wide
  · exact .inr (UInt8.toNat_inj.mp nine)
  · refine .inl ⟨wide.1, fun del => ?_⟩
    rw [del] at wide
    exact absurd wide.2 (by decide)

/-- A value reads only as a text of value characters. -/
theorem isValueText_of_text? {v : HeaderValue} {s : String} (read : v.text? = some s) :
    IsValueText s := by
  unfold HeaderValue.text? at read
  split at read
  · rename_i textual
    cases read
    intro c member
    rw [String.toList_ofList, List.mem_map] at member
    obtain ⟨b, listed, rfl⟩ := member
    have code := (HeaderValue.isTextByte_iff b).mp (List.all_eq_true.mp textual b listed)
    have valid : b.toNat.isValidChar := .inl (by omega)
    have same : (Char.ofNat b.toNat).toNat = b.toNat := by
      rw [Char.ofNat, dif_pos valid]
      rfl
    unfold IsTextChar
    rw [same]
    exact code
  · cases read

theorem isValueText_of_mem_texts {hs : Headers} {name : HeaderName} {s : String}
    (member : s ∈ hs.texts name) : IsValueText s := by
  obtain ⟨v, -, read⟩ := List.mem_filterMap.mp member
  exact isValueText_of_text? read

/-- A value that reads as a text is the value of that text. -/
theorem HeaderValue.ofText_of_text? {v : HeaderValue} {s : String} (read : v.text? = some s) :
    HeaderValue.ofText s = v := by
  have text := isValueText_of_text? read
  obtain ⟨bytes⟩ := v
  unfold HeaderValue.text? at read
  split at read
  · rename_i textual
    obtain rfl := Option.some.inj read
    have back : ∀ b ∈ bytes, (Char.toUInt8 ∘ fun b : UInt8 => Char.ofNat b.toNat) b = b := by
      intro b member
      have code := (HeaderValue.isTextByte_iff b).mp (List.all_eq_true.mp textual b member)
      have valid : b.toNat.isValidChar := .inl (by omega)
      have same : (Char.ofNat b.toNat).toNat = b.toNat := by
        rw [Char.ofNat, dif_pos valid]
        rfl
      apply UInt8.toNat_inj.mp
      rw [Function.comp_apply, toNat_toUInt8, same, Nat.mod_eq_of_lt (by omega)]
    have bytesEq : (HeaderValue.ofText (String.ofList (bytes.map fun b => Char.ofNat b.toNat))).bytes =
        bytes := by
      rw [HeaderValue.bytes_ofText_of_isValueText text, String.toList_ofList, List.map_map,
        List.map_congr_left back, List.map_id']
    exact congrArg HeaderValue.mk bytesEq
  · cases read

/-- Of some values, those that read as text are the values of the texts they read as. -/
theorem map_ofText_filterMap_text? (vs : List HeaderValue) :
    (vs.filterMap HeaderValue.text?).map HeaderValue.ofText = vs.filter fun v => v.text?.isSome := by
  induction vs with
  | nil => rfl
  | cons v rest ih =>
      cases read : v.text? with
      | none => simp [read, ih]
      | some s => simp [read, ih, HeaderValue.ofText_of_text? read]

end Http

end ResponseCache
