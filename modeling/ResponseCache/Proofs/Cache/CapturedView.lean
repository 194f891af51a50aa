import Mathlib.Data.List.Basic
import ResponseCache.Proofs.Cache.VaryFit
import ResponseCache.Proofs.Http.TextValue
/-!
# What stored headers replay

An entry keeps a response's header lines grouped by name, the groups in ascending order of name,
and serving replays the groups in that order. Read by one header name, the replayed headers are
the response's text lines of that name, in their order, each replayed
(`getAll_renderFiltered_capture`).

Two facts about capturing carry this: the names of the groups ascend strictly, so a name has at
most one group, and a line joins its group at the end (`linesOf_capture`). A group is replayed
under the name its key reads as, and the key of a stored group is the spelling of a response
header name, which reads back as that name.
-/

namespace ResponseCache
namespace Cache

open Http

namespace CapturedHeaders

/-- The stored lines of one name, in order. -/
def linesOf (key : String) (groups : List (String × List CapturedLine)) : List CapturedLine :=
  (groups.filter (·.1 == key)).flatMap (·.2)

/-- Groups whose names ascend strictly. -/
def Ascending (groups : List (String × List CapturedLine)) : Prop :=
  groups.Pairwise fun a b => a.1 < b.1

section Lines

variable {key : String} {groups : List (String × List CapturedLine)}

theorem linesOf_cons (g : String × List CapturedLine) :
    linesOf key (g :: groups) = (if g.1 = key then g.2 else []) ++ linesOf key groups := by
  by_cases same : g.1 = key <;> simp [linesOf, same]

theorem linesOf_of_ne (other : ∀ g ∈ groups, g.1 ≠ key) : linesOf key groups = [] := by
  simp only [linesOf, List.flatMap_eq_nil_iff, List.mem_filter, beq_iff_eq]
  exact fun g ⟨member, same⟩ => absurd same (other g member)

theorem mem_linesOf {g : String × List CapturedLine} (member : g ∈ groups) {line : CapturedLine}
    (inside : line ∈ g.2) : line ∈ linesOf g.1 groups :=
  List.mem_flatMap.mpr ⟨g, List.mem_filter.mpr ⟨member, beq_self_eq_true _⟩, inside⟩

end Lines

theorem lt_of_not_lt_of_ne {a b : String} (notBelow : ¬a < b) (other : a ≠ b) : b < a := by
  have above : b ≤ a := String.not_lt.mp notBelow
  by_cases below : b < a
  · exact below
  · exact absurd (String.le_antisymm (String.not_lt.mp below) above) other

/-! ## Adding one line -/

section Push

variable {name : String} {line : CapturedLine}

theorem key_of_mem_push {groups : List (String × List CapturedLine)}
    {g : String × List CapturedLine} :
    g ∈ push name line groups → g.1 = name ∨ g.1 ∈ groups.map Prod.fst := by
  fun_induction push name line groups with
  | case1 =>
      intro member
      rw [List.mem_singleton] at member
      exact .inl (by rw [member])
  | case2 n ls rest =>
      intro member
      rcases List.mem_cons.mp member with rfl | later
      · exact .inl rfl
      · exact .inr (List.mem_map_of_mem later)
  | case3 ls rest =>
      intro member
      rcases List.mem_cons.mp member with rfl | later
      · exact .inr List.mem_cons_self
      · exact .inr (List.mem_cons_of_mem _ (List.mem_map_of_mem later))
  | case4 n ls rest _ _ ih =>
      intro member
      rcases List.mem_cons.mp member with rfl | later
      · exact .inr List.mem_cons_self
      · rcases ih later with fresh | old
        · exact .inl fresh
        · exact .inr (List.mem_cons_of_mem _ old)

theorem ascending_push {groups : List (String × List CapturedLine)} :
    Ascending groups → Ascending (push name line groups) := by
  fun_induction push name line groups with
  | case1 => exact fun _ => List.pairwise_singleton _ _
  | case2 n ls rest below =>
      intro ascending
      refine List.Pairwise.cons (fun g member => ?_) ascending
      rcases List.mem_cons.mp member with rfl | later
      · exact below
      · exact String.lt_trans below (List.rel_of_pairwise_cons ascending later)
  | case3 ls rest =>
      intro ascending
      exact List.Pairwise.cons (fun g member => List.rel_of_pairwise_cons ascending member)
        ascending.of_cons
  | case4 n ls rest notBelow other ih =>
      intro ascending
      refine List.Pairwise.cons (fun g member => ?_) (ih ascending.of_cons)
      rcases key_of_mem_push member with fresh | old
      · rw [fresh]
        exact lt_of_not_lt_of_ne notBelow other
      · obtain ⟨h, later, same⟩ := List.mem_map.mp old
        rw [← same]
        exact List.rel_of_pairwise_cons ascending later

/-- A line pushed into ascending groups comes last among the lines of its name. -/
theorem linesOf_push (key : String) {groups : List (String × List CapturedLine)} :
    Ascending groups →
      linesOf key (push name line groups) =
        linesOf key groups ++ (if name = key then [line] else []) := by
  fun_induction push name line groups with
  | case1 =>
      intro _
      by_cases same : name = key <;> simp [linesOf, same]
  | case2 n ls rest below =>
      intro ascending
      rw [linesOf_cons]
      by_cases same : name = key
      · subst same
        have above : ∀ g ∈ (n, ls) :: rest, g.1 ≠ name := by
          intro g member
          rcases List.mem_cons.mp member with rfl | later
          · exact fun bad => String.lt_irrefl _ (bad ▸ below)
          · exact fun bad =>
              String.lt_irrefl _ (bad ▸ String.lt_trans below (List.rel_of_pairwise_cons ascending later))
        simp [linesOf_of_ne above]
      · simp [same]
  | case3 ls rest =>
      intro ascending
      rw [linesOf_cons, linesOf_cons]
      by_cases named : name = key
      · subst named
        have above : ∀ g ∈ rest, g.1 ≠ name := fun g member bad =>
          String.lt_irrefl _ (bad ▸ List.rel_of_pairwise_cons ascending member)
        simp [linesOf_of_ne above]
      · simp [named]
  | case4 n ls rest _ _ ih =>
      intro ascending
      rw [linesOf_cons, linesOf_cons, ih ascending.of_cons, List.append_assoc]

end Push

/-! ## Capturing a response -/

/-- One response field, as capturing takes it in. -/
def captureStep (acc : List (String × List CapturedLine)) (field : HeaderName × HeaderValue) :
    List (String × List CapturedLine) :=
  if hopByHop.contains field.1.text then acc
  else match field.2.text? with
    | none => acc
    | some text => push field.1.text ⟨HeaderKind.classify field.1, text⟩ acc

theorem capture_eq (hs : Headers) : capture hs = ⟨hs.fields.foldl captureStep []⟩ := rfl

/-- The line a response field is stored as among the lines of `key`, if any. -/
def capturedLine (key : String) (field : HeaderName × HeaderValue) : Option CapturedLine :=
  if field.1.text = key ∧ hopByHop.contains key = false then
    field.2.text?.map (⟨HeaderKind.classify field.1, ·⟩)
  else none

section Step

variable {acc : List (String × List CapturedLine)} (field : HeaderName × HeaderValue)

theorem ascending_captureStep (ascending : Ascending acc) : Ascending (captureStep acc field) := by
  unfold captureStep
  split
  · exact ascending
  · split
    · exact ascending
    · exact ascending_push ascending

theorem linesOf_captureStep (ascending : Ascending acc) (key : String) :
    linesOf key (captureStep acc field) = linesOf key acc ++ (capturedLine key field).toList := by
  unfold captureStep capturedLine
  by_cases same : field.1.text = key
  · subst same
    cases hop : hopByHop.contains field.1.text with
    | true => simp
    | false =>
        cases read : field.2.text? with
        | none => simp
        | some text => simp [linesOf_push _ ascending]
  · cases hop : hopByHop.contains field.1.text <;> cases read : field.2.text? <;>
      simp [linesOf_push _ ascending, same]

theorem key_of_mem_captureStep {g : String × List CapturedLine} (member : g ∈ captureStep acc field) :
    g.1 ∈ acc.map Prod.fst ∨ g.1 = field.1.text := by
  unfold captureStep at member
  split at member
  · exact .inl (List.mem_map_of_mem member)
  · split at member
    · exact .inl (List.mem_map_of_mem member)
    · exact (key_of_mem_push member).symm
end Step

section Run

variable (fields : List (HeaderName × HeaderValue))

theorem ascending_foldl_captureStep :
    ∀ {acc : List (String × List CapturedLine)}, Ascending acc →
      Ascending (fields.foldl captureStep acc) := by
  induction fields with
  | nil => exact id
  | cons field rest ih => exact fun ascending => ih (ascending_captureStep field ascending)

theorem linesOf_foldl_captureStep (key : String) :
    ∀ {acc : List (String × List CapturedLine)}, Ascending acc →
      linesOf key (fields.foldl captureStep acc) =
        linesOf key acc ++ fields.filterMap (capturedLine key) := by
  induction fields with
  | nil => simp
  | cons field rest ih =>
      intro acc ascending
      rw [List.foldl_cons, ih (ascending_captureStep field ascending),
        linesOf_captureStep field ascending, List.filterMap_cons]
      cases capturedLine key field <;> simp

theorem key_of_mem_foldl_captureStep :
    ∀ {acc : List (String × List CapturedLine)} {g : String × List CapturedLine},
      g ∈ fields.foldl captureStep acc →
        g.1 ∈ acc.map Prod.fst ∨ ∃ field ∈ fields, field.1.text = g.1 := by
  induction fields with
  | nil => exact fun member => .inl (List.mem_map_of_mem member)
  | cons field rest ih =>
      intro acc g member
      rcases ih member with earlier | ⟨f, listed, named⟩
      · rcases List.mem_map.mp earlier with ⟨h, inside, same⟩
        rcases key_of_mem_captureStep field inside with old | fresh
        · exact .inl (same ▸ old)
        · exact .inr ⟨field, List.mem_cons_self, by rw [← same, fresh]⟩
      · exact .inr ⟨f, List.mem_cons_of_mem _ listed, named⟩

end Run

theorem ascending_capture (hs : Headers) : Ascending (capture hs).groups :=
  ascending_foldl_captureStep hs.fields List.Pairwise.nil

/-- The stored lines of a name are the response's fields of that name that read as text, in
order; connection-level names store none. -/
theorem linesOf_capture (hs : Headers) (key : String) :
    linesOf key (capture hs).groups = hs.fields.filterMap (capturedLine key) := by
  rw [capture_eq, linesOf_foldl_captureStep hs.fields key List.Pairwise.nil]
  rfl

/-- Every group is keyed by the spelling of a response header name. -/
theorem key_of_mem_capture {hs : Headers} {g : String × List CapturedLine}
    (member : g ∈ (capture hs).groups) : ∃ field ∈ hs.fields, field.1.text = g.1 := by
  rcases key_of_mem_foldl_captureStep hs.fields member with none | named
  · cases none
  · exact named

theorem spelled_of_mem_capture {hs : Headers} {g : String × List CapturedLine}
    (member : g ∈ (capture hs).groups) : ∃ hn : HeaderName, hn.text = g.1 := by
  obtain ⟨field, -, spelled⟩ := key_of_mem_capture member
  exact ⟨field.1, spelled⟩

/-- A line read from the response under a name has that name's role. -/
theorem kind_of_mem_filterMap_capturedLine {hs : Headers} {name : HeaderName} {line : CapturedLine}
    (member : line ∈ hs.fields.filterMap (capturedLine name.text)) :
    line.kind = HeaderKind.classify name := by
  obtain ⟨⟨n, v⟩, -, stored⟩ := List.mem_filterMap.mp member
  unfold capturedLine at stored
  split at stored
  · rename_i spelled
    obtain ⟨text, -, rfl⟩ := Option.map_eq_some_iff.mp stored
    rw [HeaderName.ext spelled.1]
  · cases stored

/-- Every stored line plays the role of the name its group's key spells. -/
theorem kind_of_mem_capture {hs : Headers} {g : String × List CapturedLine}
    (member : g ∈ (capture hs).groups) {line : CapturedLine} (inside : line ∈ g.2)
    {name : HeaderName} (spelled : name.text = g.1) : line.kind = HeaderKind.classify name := by
  have listed := mem_linesOf member inside
  rw [linesOf_capture, ← spelled] at listed
  exact kind_of_mem_filterMap_capturedLine listed

/-- Under a name that is kept, the stored lines are the response's texts of that name, each with
the name's role. -/
theorem filterMap_capturedLine (hs : Headers) {name : HeaderName}
    (kept : hopByHop.contains name.text = false) :
    hs.fields.filterMap (capturedLine name.text) =
      (hs.texts name).map (⟨HeaderKind.classify name, ·⟩) := by
  rw [Headers.texts, Headers.getAll, List.map_filterMap, List.filterMap_map,
    List.filterMap_filter]
  congr 1
  funext field
  obtain ⟨n, v⟩ := field
  by_cases same : n = name
  · subst same
    rw [capturedLine, if_pos ⟨rfl, kept⟩]
    simp
  · have spelled : n.text ≠ name.text := fun spelling => same (HeaderName.ext spelling)
    simp [capturedLine, same, spelled]

/-! ## Replaying stored lines -/

/-- The value a stored line of `key` is replayed as, when `keep` selects it and its text makes a
value. -/
def replayValue (remaining : Nat) (keep : String → HeaderKind → Bool) (key : String)
    (line : CapturedLine) : Option HeaderValue :=
  if keep key line.kind then
    HeaderValue.ofBytes? (HeaderValue.ofText (line.replay remaining)).bytes
  else none

/-- The fields a group is replayed as: its kept lines, under the name its key reads as. -/
def groupFields (remaining : Nat) (keep : String → HeaderKind → Bool)
    (group : String × List CapturedLine) : List (HeaderName × HeaderValue) :=
  match HeaderName.ofText? group.1 with
  | none => []
  | some hn => (group.2.filterMap (replayValue remaining keep group.1)).map (hn, ·)

/-- One stored line, as rendering takes it in. -/
def renderLine (remaining : Nat) (keep : String → HeaderKind → Bool) (key : String)
    (hn : HeaderName) (out : Headers) (line : CapturedLine) : Headers :=
  if !keep key line.kind then out
  else match HeaderValue.ofBytes? (HeaderValue.ofText (line.replay remaining)).bytes with
    | none => out
    | some v => out.append hn v

/-- One group, as rendering takes it in. -/
def renderGroup (remaining : Nat) (keep : String → HeaderKind → Bool) (out : Headers)
    (group : String × List CapturedLine) : Headers :=
  match HeaderName.ofText? group.1 with
  | none => out
  | some hn => group.2.foldl (renderLine remaining keep group.1 hn) out

section Render

variable (remaining : Nat) (keep : String → HeaderKind → Bool)

theorem renderFiltered_eq (c : CapturedHeaders) :
    c.renderFiltered remaining keep = c.groups.foldl (renderGroup remaining keep) Headers.empty :=
  rfl

theorem foldl_renderLine (key : String) (hn : HeaderName) (lines : List CapturedLine) :
    ∀ out : Headers, (lines.foldl (renderLine remaining keep key hn) out).fields =
      out.fields ++ (lines.filterMap (replayValue remaining keep key)).map (hn, ·) := by
  induction lines with
  | nil => simp
  | cons line rest ih =>
      intro out
      rw [List.foldl_cons, ih, List.filterMap_cons]
      unfold renderLine replayValue
      cases keep key line.kind with
      | false => simp
      | true =>
          cases HeaderValue.ofBytes? (HeaderValue.ofText (line.replay remaining)).bytes with
          | none => simp
          | some v => simp [Headers.append]

theorem foldl_renderGroup (groups : List (String × List CapturedLine)) :
    ∀ out : Headers, (groups.foldl (renderGroup remaining keep) out).fields =
      out.fields ++ groups.flatMap (groupFields remaining keep) := by
  induction groups with
  | nil => simp
  | cons group rest ih =>
      intro out
      rw [List.foldl_cons, ih, List.flatMap_cons, ← List.append_assoc]
      unfold renderGroup groupFields
      cases HeaderName.ofText? group.1 with
      | none => simp
      | some hn => rw [foldl_renderLine]

/-- The replayed headers are the fields of each group in turn. -/
theorem fields_renderFiltered (c : CapturedHeaders) :
    (c.renderFiltered remaining keep).fields = c.groups.flatMap (groupFields remaining keep) := by
  rw [renderFiltered_eq, foldl_renderGroup]
  rfl

/-- A replayed field comes from a group whose key reads as its name, holding a line that `keep`
selects. -/
theorem mem_renderFiltered {c : CapturedHeaders} {f : HeaderName × HeaderValue}
    (member : f ∈ (c.renderFiltered remaining keep).fields) :
    ∃ g ∈ c.groups, HeaderName.ofText? g.1 = some f.1 ∧ ∃ line ∈ g.2, keep g.1 line.kind = true := by
  rw [fields_renderFiltered, List.mem_flatMap] at member
  obtain ⟨g, listed, inside⟩ := member
  unfold groupFields at inside
  split at inside
  · cases inside
  · rename_i hn read
    obtain ⟨v, replayed, rfl⟩ := List.mem_map.mp inside
    obtain ⟨line, kept, made⟩ := List.mem_filterMap.mp replayed
    refine ⟨g, listed, read, line, kept, ?_⟩
    unfold replayValue at made
    split at made
    · assumption
    · cases made

theorem getAll_groupFields {group : String × List CapturedLine} {hn : HeaderName}
    (spelled : hn.text = group.1) (name : HeaderName) :
    ((groupFields remaining keep group).filter (·.1 == name)).map Prod.snd =
      if group.1 = name.text then group.2.filterMap (replayValue remaining keep group.1)
      else [] := by
  unfold groupFields
  rw [← spelled, HeaderName.ofText?_text]
  by_cases same : hn.text = name.text
  · rw [HeaderName.ext same]
    simp [List.filter_map, Function.comp_def]
  · have other : hn ≠ name := fun named => same (by rw [named])
    simp [same, other, List.filter_map, Function.comp_def]

/-- Groups keyed by the spellings of header names replay, under one name, that name's lines. -/
theorem getAll_flatMap_groupFields {groups : List (String × List CapturedLine)}
    (spelled : ∀ g ∈ groups, ∃ hn : HeaderName, hn.text = g.1) (name : HeaderName) :
    ((groups.flatMap (groupFields remaining keep)).filter (·.1 == name)).map Prod.snd =
      (linesOf name.text groups).filterMap (replayValue remaining keep name.text) := by
  induction groups with
  | nil => rfl
  | cons group rest ih =>
      obtain ⟨hn, named⟩ := spelled group List.mem_cons_self
      rw [List.flatMap_cons, List.filter_append, List.map_append,
        getAll_groupFields remaining keep named,
        ih fun g member => spelled g (List.mem_cons_of_mem _ member), linesOf_cons,
        List.filterMap_append]
      by_cases same : group.1 = name.text
      · simp [same]
      · simp [same]

/-- The law of replay: under a kept name, the replayed headers of a response are the response's
texts of that name, in order, each as its line replays. -/
theorem getAll_renderFiltered_capture {hs : Headers} {name : HeaderName}
    (kept : hopByHop.contains name.text = false) :
    ((capture hs).renderFiltered remaining keep).getAll name =
      (hs.texts name).filterMap fun text =>
        replayValue remaining keep name.text ⟨HeaderKind.classify name, text⟩ := by
  rw [Headers.getAll, fields_renderFiltered,
    getAll_flatMap_groupFields remaining keep fun _ member => spelled_of_mem_capture member,
    linesOf_capture, filterMap_capturedLine hs kept, List.filterMap_map]
  rfl

theorem replayValue_of_isValueText {key : String} {line : CapturedLine}
    (kept : keep key line.kind = true) (text : IsValueText (line.replay remaining)) :
    replayValue remaining keep key line = some (HeaderValue.ofText (line.replay remaining)) := by
  rw [replayValue, if_pos kept, HeaderValue.ofBytes?_ofText text]

/-- Under a kept name whose lines replay as text, the replayed values are those texts. -/
theorem getAll_renderFiltered_capture_of_text {hs : Headers}
    {name : HeaderName} (kept : hopByHop.contains name.text = false)
    (keepName : keep name.text (HeaderKind.classify name) = true)
    (text : ∀ t ∈ hs.texts name, IsValueText (CapturedLine.replay ⟨HeaderKind.classify name, t⟩ remaining)) :
    ((capture hs).renderFiltered remaining keep).getAll name =
      (hs.texts name).map fun t =>
        HeaderValue.ofText (CapturedLine.replay ⟨HeaderKind.classify name, t⟩ remaining) := by
  rw [getAll_renderFiltered_capture remaining keep kept, ← List.filterMap_eq_map]
  exact List.filterMap_congr fun t member => replayValue_of_isValueText remaining keep keepName
    (text t member)

/-- The texts of replayed values are the replayed texts. -/
theorem texts_renderFiltered_capture {hs : Headers}
    {name : HeaderName} (kept : hopByHop.contains name.text = false)
    (keepName : keep name.text (HeaderKind.classify name) = true)
    (text : ∀ t ∈ hs.texts name, IsValueText (CapturedLine.replay ⟨HeaderKind.classify name, t⟩ remaining)) :
    ((capture hs).renderFiltered remaining keep).texts name =
      (hs.texts name).map fun t => CapturedLine.replay ⟨HeaderKind.classify name, t⟩ remaining := by
  rw [Headers.texts, getAll_renderFiltered_capture_of_text remaining keep kept keepName text,
    List.filterMap_map, ← List.filterMap_eq_map]
  exact List.filterMap_congr fun t member => HeaderValue.text?_ofText (text t member)

end Render

end CapturedHeaders

end Cache
end ResponseCache
