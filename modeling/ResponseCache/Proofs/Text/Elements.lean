import ResponseCache.Text.Blank
import ResponseCache.Text.Ascii
/-!
# Trimmed, comma-separated elements

Header values such as Cache-Control are lists of elements: the value is split at every comma,
each piece is trimmed, and empty pieces are dropped. A piece is made of characters of the value
and holds no separator; trimming keeps characters and their order.

Joining elements with `", "` and reading the result again gives back the elements, as long as
each is trimmed, non-empty and free of commas (`elements_intercalate`): the space after each
comma goes with the trimming.
-/

namespace ResponseCache

namespace Text

theorem trimList_sublist (cs : List Char) : (trimList cs).Sublist cs := by
  have back := List.reverse_sublist.mpr (List.dropWhile_sublist isBlank (l := (dropBlanks cs).reverse))
  rw [List.reverse_reverse] at back
  exact back.trans (List.dropWhile_sublist isBlank)

theorem trim_trim (s : String) : trim (trim s) = trim s := by
  simp only [trim, String.toList_ofList, trimList_trimList]

theorem not_mem_trim {c : Char} {s : String} (absent : c ∉ s.toList) : c ∉ (trim s).toList := by
  rw [trim, String.toList_ofList]
  exact fun inside => absent ((trimList_sublist _).subset inside)

theorem splitAll_of_not_mem {sep : Char} {s : String} (absent : sep ∉ s.toList) :
    splitAll sep s = [s] := by
  rw [splitAll, List.splitOn_eq_singleton absent, List.map_singleton, String.ofList_toList]

/-- A list whose characters are none of them blank is its own trim. -/
theorem trimList_of_not_blank {cs : List Char} (solid : ∀ c ∈ cs, isBlank c = false) :
    trimList cs = cs :=
  trimList_eq_self (fun c first => solid c (List.mem_of_mem_head? first))
    (fun c last => solid c (List.mem_of_getLast? last))

theorem trim_space_cons (cs : List Char) :
    trim (String.ofList (' ' :: cs)) = trim (String.ofList cs) := by
  have blank : isBlank ' ' = true := by decide
  simp only [trim, String.toList_ofList, trimList, dropBlanks, List.dropWhile_cons_of_pos blank]

theorem mem_of_mem_splitOnP {α : Type} {p : α → Bool} :
    ∀ {l piece : List α}, piece ∈ l.splitOnP p → ∀ c ∈ piece, c ∈ l ∧ p c = false
  | [], piece, member => by
      rw [List.splitOnP_nil, List.mem_singleton] at member
      subst member
      intro c inside
      cases inside
  | x :: xs, piece, member => by
      have later : ∀ {q : List α}, q ∈ xs.splitOnP p → ∀ c ∈ q, c ∈ x :: xs ∧ p c = false :=
        fun {q} member c inside =>
          ⟨List.mem_cons_of_mem _ (mem_of_mem_splitOnP member c inside).1,
            (mem_of_mem_splitOnP member c inside).2⟩
      rw [List.splitOnP_cons_eq_if_modifyHead] at member
      split at member
      · rcases List.mem_cons.mp member with rfl | rest
        · intro c inside
          cases inside
        · exact later rest
      · rename_i kept
        cases pieces : xs.splitOnP p with
        | nil => exact absurd pieces (List.splitOnP_ne_nil p xs)
        | cons first others =>
            rw [pieces, List.modifyHead_cons] at member
            rcases List.mem_cons.mp member with rfl | rest
            · intro c inside
              rcases List.mem_cons.mp inside with rfl | deeper
              · exact ⟨List.mem_cons_self, by simpa using kept⟩
              · exact later (pieces ▸ List.mem_cons_self) c deeper
            · exact later (pieces ▸ List.mem_cons_of_mem _ rest)

/-- Every piece of a split is made of characters of the text other than the separator. -/
theorem mem_of_mem_splitAll {sep : Char} {s piece : String} (member : piece ∈ splitAll sep s) :
    ∀ c ∈ piece.toList, c ∈ s.toList ∧ c ≠ sep := by
  rw [splitAll, List.mem_map] at member
  obtain ⟨cs, split, rfl⟩ := member
  rw [List.splitOn_eq_splitOnP] at split
  intro c inside
  rw [String.toList_ofList] at inside
  obtain ⟨listed, other⟩ := mem_of_mem_splitOnP split c inside
  exact ⟨listed, by simpa using other⟩

/-- The trimmed, non-empty pieces of a text split at `sep`. -/
def elements (sep : Char) (s : String) : List String :=
  ((splitAll sep s).map trim).filter (!·.isEmpty)

/-- Every element is trimmed and non-empty, and is made of characters of the text other than the
separator. -/
theorem mem_elements {sep : Char} {s e : String} (member : e ∈ elements sep s) :
    trim e = e ∧ e.isEmpty = false ∧ ∀ c ∈ e.toList, c ∈ s.toList ∧ c ≠ sep := by
  rw [elements, List.mem_filter, List.mem_map] at member
  obtain ⟨⟨piece, split, rfl⟩, nonEmpty⟩ := member
  refine ⟨trim_trim piece, by simpa using nonEmpty, fun c inside => ?_⟩
  rw [trim, String.toList_ofList] at inside
  exact mem_of_mem_splitAll split c ((trimList_sublist _).subset inside)

theorem mem_intercalate {sep : String} {qs : List String} {c : Char}
    (member : c ∈ (String.intercalate sep qs).toList) :
    c ∈ sep.toList ∨ ∃ q ∈ qs, c ∈ q.toList := by
  rw [String.toList_intercalate] at member
  induction qs with
  | nil => cases member
  | cons q rest ih =>
      cases rest with
      | nil => exact .inr ⟨q, List.mem_cons_self, by simpa using member⟩
      | cons q' more =>
          rw [List.map_cons, List.map_cons, List.intercalate_cons_cons, List.mem_append,
            List.mem_append] at member
          rcases member with (first | separator) | later
          · exact .inr ⟨q, List.mem_cons_self, first⟩
          · exact .inl separator
          · rcases ih (by rw [List.map_cons]; exact later) with separator | ⟨r, listed, inside⟩
            · exact .inl separator
            · exact .inr ⟨r, List.mem_cons_of_mem _ listed, inside⟩

theorem intercalate_comma_space (a : List Char) (rest : List (List Char)) :
    [',', ' '].intercalate (a :: rest) = [','].intercalate (a :: rest.map (' ' :: ·)) := by
  induction rest generalizing a with
  | nil => simp
  | cons b more ih =>
      rw [List.intercalate_cons_cons, ih, List.map_cons, List.intercalate_cons_cons]
      cases more with
      | nil => simp
      | cons c others => simp [List.intercalate_cons_cons]

/-- Elements joined with `", "` read back as themselves. -/
theorem elements_intercalate {qs : List String}
    (shaped : ∀ q ∈ qs, trim q = q ∧ q.isEmpty = false ∧ ',' ∉ q.toList) :
    elements ',' (String.intercalate ", " qs) = qs := by
  cases qs with
  | nil => decide
  | cons q rest =>
      have joined : (String.intercalate ", " (q :: rest)).toList =
          [','].intercalate (q.toList :: (rest.map String.toList).map (' ' :: ·)) := by
        rw [String.toList_intercalate, List.map_cons]
        exact intercalate_comma_space _ _
      have commaFree : ∀ l ∈ q.toList :: (rest.map String.toList).map (' ' :: ·), ',' ∉ l := by
        intro l member
        rcases List.mem_cons.mp member with rfl | later
        · exact (shaped q List.mem_cons_self).2.2
        · obtain ⟨l', listed, rfl⟩ := List.mem_map.mp later
          obtain ⟨r, kept, rfl⟩ := List.mem_map.mp listed
          intro inside
          rcases List.mem_cons.mp inside with bad | deeper
          · cases bad
          · exact (shaped r (List.mem_cons_of_mem _ kept)).2.2 deeper
      rw [elements, splitAll, joined, List.splitOn_intercalate ',' commaFree (List.cons_ne_nil _ _)]
      simp only [List.map_cons, List.map_map]
      have pieces : ∀ r ∈ rest, (trim ∘ String.ofList ∘ (' ' :: ·) ∘ String.toList) r = r := by
        intro r member
        simp only [Function.comp_apply, trim_space_cons, String.ofList_toList]
        exact (shaped r (List.mem_cons_of_mem _ member)).1
      rw [List.map_congr_left pieces, List.map_id', String.ofList_toList,
        (shaped q List.mem_cons_self).1]
      apply List.filter_eq_self.mpr
      intro r member
      simpa using (shaped r member).2.1

end Text

end ResponseCache
