import ResponseCache.Proofs.Cache.ServedAnswer
/-!
# Replaying stored headers, and storing them again

An entry keeps the response lines it may replay, and serving replays them with Cache-Control
advertising the seconds left. Under every name the replayed headers hold exactly the response's
lines of that name that read as text, in order, the Cache-Control lines rewritten and the others
as they were; connection-level names hold nothing (`getAll_render_capture`). A 304 replays the
same under Cache-Control, ETag and Vary, and nothing under any other name
(`getAll_renderValidators_capture`).

Replaying loses nothing that storing keeps: the replayed headers, stored again, are the stored
lines with their replayed texts (`capture_render_capture`), so replaying those at another time is
replaying the first ones at that time (`render_capture_render`). The argument is that every stored
group replays whole (`Replayable`), that storing the replayed groups one after another in
ascending order of name appends each as it is, and that rewriting a max-age twice is rewriting it
once (`Freshness.rewriteMaxAge_rewriteMaxAge`).
-/

namespace ResponseCache
namespace Cache

open Http

/-- A stored line as replayed with `remaining` seconds left: same role, replayed text. -/
def CapturedLine.replayed (line : CapturedLine) (remaining : Nat) : CapturedLine :=
  ⟨line.kind, line.replay remaining⟩

theorem CapturedLine.replay_replayed (line : CapturedLine) (first second : Nat) :
    (line.replayed first).replay second = line.replay second := by
  obtain ⟨kind, value⟩ := line
  cases kind with
  | cacheControl => exact Freshness.rewriteMaxAge_rewriteMaxAge value first second
  | cookie | entityTag | newCookie | other => rfl

theorem CapturedLine.replay_eq (kind : HeaderKind) (text : String) (remaining : Nat) :
    CapturedLine.replay ⟨kind, text⟩ remaining =
      if kind = .cacheControl then Freshness.rewriteMaxAge text remaining else text := by
  cases kind <;> rfl

theorem HeaderKind.classify_eq_cacheControl {name : HeaderName}
    (role : HeaderKind.classify name = .cacheControl) : name = HeaderName.cacheControl := by
  unfold HeaderKind.classify at role
  split at role
  · rename_i spelled
    have named : name.text = "cache-control" := by simpa using spelled
    exact HeaderName.ext named
  · split at role
    · cases role
    · split at role
      · cases role
      · split at role <;> cases role

/-- A 304 carries the lines of a name exactly when it is Cache-Control, ETag or Vary. -/
theorem HeaderKind.isValidator_classify_iff (name : HeaderName) :
    (HeaderKind.classify name).isValidator name.text = true ↔
      name.text = "cache-control" ∨ name.text = "etag" ∨ name.text = "vary" := by
  constructor
  · exact eq_of_isValidator_classify
  · rintro (spelled | spelled | spelled) <;>
      simp [HeaderKind.classify, HeaderKind.isValidator, spelled]

namespace CapturedHeaders

/-- Stored headers as replayed with `remaining` seconds left: each line with its replayed text,
which rewrites the Cache-Control lines and keeps the others. -/
def replayed (c : CapturedHeaders) (remaining : Nat) : CapturedHeaders :=
  ⟨c.groups.map fun g => (g.1, g.2.map (·.replayed remaining))⟩

/-! ## What a stored group is -/

theorem nonEmpty_push {name : String} {line : CapturedLine}
    {groups : List (String × List CapturedLine)} :
    (∀ g ∈ groups, g.2 ≠ []) → ∀ g ∈ push name line groups, g.2 ≠ [] := by
  fun_induction push name line groups with
  | case1 =>
      intro _ g member
      rw [List.mem_singleton.mp member]
      exact List.cons_ne_nil _ _
  | case2 n ls rest _ =>
      intro full g member
      rcases List.mem_cons.mp member with rfl | old
      · exact List.cons_ne_nil _ _
      · exact full g old
  | case3 ls rest =>
      intro full g member
      rcases List.mem_cons.mp member with rfl | old
      · exact List.append_ne_nil_of_right_ne_nil _ (List.cons_ne_nil _ _)
      · exact full g (List.mem_cons_of_mem _ old)
  | case4 n ls rest _ _ ih =>
      intro full g member
      rcases List.mem_cons.mp member with rfl | later
      · exact full _ List.mem_cons_self
      · exact ih (fun g listed => full g (List.mem_cons_of_mem _ listed)) g later

/-- Every stored group holds a line. -/
theorem nonEmpty_capture (hs : Headers) : ∀ g ∈ (capture hs).groups, g.2 ≠ [] := by
  rw [capture_eq]
  suffices kept : ∀ (fields : List (HeaderName × HeaderValue)) (acc : List (String × List CapturedLine)),
      (∀ g ∈ acc, g.2 ≠ []) → ∀ g ∈ fields.foldl captureStep acc, g.2 ≠ [] from
    kept hs.fields [] fun _ absent => by cases absent
  intro fields
  induction fields with
  | nil => exact fun _ full => full
  | cons field rest ih =>
      intro acc full
      apply ih
      unfold captureStep
      split
      · exact full
      · split
        · exact full
        · exact nonEmpty_push full

/-- A stored line comes from a response field of its group's name, which is not a
connection-level name, and has the text the field reads as. -/
theorem mem_capture_line {hs : Headers} {g : String × List CapturedLine}
    (member : g ∈ (capture hs).groups) {line : CapturedLine} (inside : line ∈ g.2) :
    hopByHop.contains g.1 = false ∧ IsValueText line.value := by
  have listed := mem_linesOf member inside
  rw [linesOf_capture, List.mem_filterMap] at listed
  obtain ⟨⟨n, v⟩, -, stored⟩ := listed
  unfold capturedLine at stored
  split at stored
  · rename_i named
    obtain ⟨text, read, rfl⟩ := Option.map_eq_some_iff.mp stored
    exact ⟨named.2, isValueText_of_text? read⟩
  · cases stored

/-- A stored group that replays whole: its key spells a header name, which is not a
connection-level one and whose role each of its lines has, and it holds lines, each made of value
characters. -/
structure Replayable (g : String × List CapturedLine) : Prop where
  named : ∃ hn : HeaderName, hn.text = g.1 ∧ ∀ line ∈ g.2, line.kind = HeaderKind.classify hn
  kept : hopByHop.contains g.1 = false
  nonEmpty : g.2 ≠ []
  text : ∀ line ∈ g.2, IsValueText line.value

theorem replayable_capture (hs : Headers) : ∀ g ∈ (capture hs).groups, Replayable g := by
  intro g member
  obtain ⟨first, rest, lines⟩ := List.exists_cons_of_ne_nil (nonEmpty_capture hs g member)
  obtain ⟨field, -, spelled⟩ := key_of_mem_capture member
  exact ⟨⟨field.1, spelled, fun line inside => kind_of_mem_capture member inside spelled⟩,
    (mem_capture_line member (lines ▸ List.mem_cons_self)).1, nonEmpty_capture hs g member,
    fun line inside => (mem_capture_line member inside).2⟩

theorem Replayable.replay_text {g : String × List CapturedLine} (replayable : Replayable g)
    {line : CapturedLine} (inside : line ∈ g.2) (remaining : Nat) :
    IsValueText (line.replay remaining) := by
  unfold CapturedLine.replay
  split
  · exact Freshness.isValueText_rewriteMaxAge (replayable.text line inside) remaining
  · exact replayable.text line inside

/-- A group that replays whole is replayed as each of its lines in order, under the name its key
spells. -/
theorem groupFields_of_replayable (remaining : Nat) {g : String × List CapturedLine}
    (replayable : Replayable g) {hn : HeaderName} (spelled : hn.text = g.1) :
    groupFields remaining (fun _ _ => true) g =
      g.2.map fun line => (hn, HeaderValue.ofText (line.replay remaining)) := by
  have read : HeaderName.ofText? g.1 = some hn := by rw [← spelled, HeaderName.ofText?_text]
  have kept : ∀ line ∈ g.2, replayValue remaining (fun _ _ => true) g.1 line =
      (some ∘ fun line : CapturedLine => HeaderValue.ofText (line.replay remaining)) line :=
    fun line inside =>
      replayValue_of_isValueText remaining _ rfl (replayable.replay_text inside remaining)
  unfold groupFields
  rw [read]
  dsimp only
  rw [List.filterMap_congr kept, List.filterMap_eq_map, List.map_map]
  rfl

/-! ## Replaying -/

/-- Under any name, the replayed headers are the kept lines of that name, each replayed if it makes
a value. -/
theorem getAll_renderFiltered_capture_lines (hs : Headers) (remaining : Nat)
    (keep : String → HeaderKind → Bool) (name : HeaderName) :
    ((capture hs).renderFiltered remaining keep).getAll name =
      (hs.fields.filterMap (capturedLine name.text)).filterMap
        (replayValue remaining keep name.text) := by
  rw [Headers.getAll, fields_renderFiltered,
    getAll_flatMap_groupFields remaining keep fun _ member => spelled_of_mem_capture member,
    linesOf_capture]

theorem filterMap_capturedLine_of_hop (hs : Headers) {key : String}
    (hop : hopByHop.contains key = true) : hs.fields.filterMap (capturedLine key) = [] :=
  List.filterMap_eq_nil_iff.mpr fun field _ => by
    unfold capturedLine
    rw [if_neg fun named => by rw [named.2] at hop; cases hop]

/-- Served from the cache, stored headers hold under each name the response's lines of that name
that read as text, in order: Cache-Control rewritten to advertise the seconds left, the others
as they were. Connection-level names hold nothing. -/
theorem getAll_render_capture (hs : Headers) (remaining : Nat) (name : HeaderName) :
    ((capture hs).render remaining).getAll name =
      if hopByHop.contains name.text then []
      else if name = HeaderName.cacheControl then
        (hs.texts name).map fun t => HeaderValue.ofText (Freshness.rewriteMaxAge t remaining)
      else (hs.getAll name).filter fun v => v.text?.isSome := by
  by_cases hop : hopByHop.contains name.text = true
  · rw [if_pos hop, render, getAll_renderFiltered_capture_lines,
      filterMap_capturedLine_of_hop hs hop]
    rfl
  · rw [if_neg hop, render, getAll_renderFiltered_capture_of_text remaining _
      (by simpa using hop) rfl fun t member => ?_]
    · by_cases cacheControl : name = HeaderName.cacheControl
      · have role : HeaderKind.classify name = .cacheControl := by rw [cacheControl]; decide
        rw [if_pos cacheControl]
        exact List.map_congr_left fun t _ => by rw [CapturedLine.replay_eq, if_pos role]
      · have role : HeaderKind.classify name ≠ .cacheControl := fun role =>
          cacheControl (HeaderKind.classify_eq_cacheControl role)
        rw [if_neg cacheControl, ← map_ofText_filterMap_text?, ← Headers.texts]
        exact List.map_congr_left fun t _ => by rw [CapturedLine.replay_eq, if_neg role]
    · rw [CapturedLine.replay_eq]
      split
      · exact Freshness.isValueText_rewriteMaxAge (isValueText_of_mem_texts member) remaining
      · exact isValueText_of_mem_texts member

/-- A 304 replays under Cache-Control, ETag and Vary what a 200 from the cache replays, and
nothing under any other name. -/
theorem getAll_renderValidators_capture (hs : Headers) (remaining : Nat) (name : HeaderName) :
    ((capture hs).renderValidators remaining).getAll name =
      if name.text = "cache-control" ∨ name.text = "etag" ∨ name.text = "vary" then
        ((capture hs).render remaining).getAll name
      else [] := by
  rw [renderValidators, render, getAll_renderFiltered_capture_lines,
    getAll_renderFiltered_capture_lines]
  by_cases validator : name.text = "cache-control" ∨ name.text = "etag" ∨ name.text = "vary"
  · rw [if_pos validator]
    apply List.filterMap_congr
    intro line member
    rw [replayValue, replayValue, if_pos rfl, if_pos]
    rw [kind_of_mem_filterMap_capturedLine member]
    exact (HeaderKind.isValidator_classify_iff name).mpr validator
  · rw [if_neg validator]
    refine List.filterMap_eq_nil_iff.mpr fun line member => ?_
    rw [replayValue, if_neg]
    rw [kind_of_mem_filterMap_capturedLine member]
    exact fun carried => validator ((HeaderKind.isValidator_classify_iff name).mp carried)

/-! ## Storing the replay again -/

theorem push_cons_of_lt {name n : String} {line : CapturedLine} {ls : List CapturedLine}
    {rest : List (String × List CapturedLine)} (under : n < name) :
    push name line ((n, ls) :: rest) = (n, ls) :: push name line rest := by
  rw [push, if_neg (String.lt_asymm under),
    if_neg fun same => String.lt_irrefl n (by rwa [same] at under)]

theorem push_of_above {name : String} {line : CapturedLine}
    {groups : List (String × List CapturedLine)} (below : ∀ g ∈ groups, g.1 < name) :
    push name line groups = groups ++ [(name, [line])] := by
  induction groups with
  | nil => rfl
  | cons g rest ih =>
      obtain ⟨n, ls⟩ := g
      rw [push_cons_of_lt (below (n, ls) List.mem_cons_self),
        ih fun g member => below g (List.mem_cons_of_mem _ member)]
      rfl

theorem push_onto_last {name : String} {line : CapturedLine} {lines : List CapturedLine}
    {groups : List (String × List CapturedLine)} (below : ∀ g ∈ groups, g.1 < name) :
    push name line (groups ++ [(name, lines)]) = groups ++ [(name, lines ++ [line])] := by
  induction groups with
  | nil =>
      rw [List.nil_append, push, if_neg (String.lt_irrefl name), if_pos rfl]
      rfl
  | cons g rest ih =>
      obtain ⟨n, ls⟩ := g
      rw [List.cons_append, push_cons_of_lt (below (n, ls) List.mem_cons_self),
        ih fun g member => below g (List.mem_cons_of_mem _ member)]
      rfl

/-- Lines of a name above every group so far form one group after them, in order. -/
theorem foldl_push_of_above {name : String} {groups : List (String × List CapturedLine)}
    (below : ∀ g ∈ groups, g.1 < name) (first : CapturedLine) (rest : List CapturedLine) :
    rest.foldl (fun acc line => push name line acc) (push name first groups) =
      groups ++ [(name, first :: rest)] := by
  rw [push_of_above below]
  suffices onto : ∀ lines : List CapturedLine,
      rest.foldl (fun acc line => push name line acc) (groups ++ [(name, lines)]) =
        groups ++ [(name, lines ++ rest)] from onto [first]
  induction rest with
  | nil => exact fun lines => by rw [List.foldl_nil, List.append_nil]
  | cons line more ih =>
      intro lines
      rw [List.foldl_cons, push_onto_last below, ih, List.append_assoc, List.singleton_append]

/-- A replayed line of a group that replays whole is stored again under the group's name, with
its role and its replayed text. -/
theorem captureStep_replayed {hn : HeaderName} (kept : hopByHop.contains hn.text = false)
    {line : CapturedLine} (good : line.kind = HeaderKind.classify hn)
    {remaining : Nat} (text : IsValueText (line.replay remaining))
    (acc : List (String × List CapturedLine)) :
    captureStep acc (hn, HeaderValue.ofText (line.replay remaining)) =
      push hn.text (line.replayed remaining) acc := by
  unfold captureStep
  rw [if_neg (Bool.eq_false_iff.mp kept), HeaderValue.text?_ofText text, ← good]
  rfl

/-- A group that replays whole, stored again after groups of smaller names, comes last, with its
lines replayed. -/
theorem foldl_captureStep_group {g : String × List CapturedLine} (replayable : Replayable g)
    (remaining : Nat) {acc : List (String × List CapturedLine)} (below : ∀ h ∈ acc, h.1 < g.1) :
    (groupFields remaining (fun _ _ => true) g).foldl captureStep acc =
      acc ++ [(g.1, g.2.map (·.replayed remaining))] := by
  obtain ⟨hn, spelled, roles⟩ := replayable.named
  rw [groupFields_of_replayable remaining replayable spelled]
  obtain ⟨key, lines⟩ := g
  obtain rfl : hn.text = key := spelled
  have each : ∀ line ∈ lines, ∀ acc : List (String × List CapturedLine),
      captureStep acc (hn, HeaderValue.ofText (line.replay remaining)) =
        push hn.text (line.replayed remaining) acc := fun line inside =>
    captureStep_replayed replayable.kept (roles line inside) (replayable.replay_text inside remaining)
  cases lines with
  | nil => exact absurd rfl replayable.nonEmpty
  | cons first rest =>
      rw [List.map_cons, List.foldl_cons, each first List.mem_cons_self, List.map_cons,
        ← foldl_push_of_above below, List.foldl_map, List.foldl_map]
      exact List.foldl_ext _ _ _ fun acc line inside => each line (List.mem_cons_of_mem _ inside) acc

/-- Groups that replay whole, in ascending order of name and above every group so far, are stored
again one after another, each with its lines replayed. -/
theorem foldl_captureStep_groups (remaining : Nat) {groups : List (String × List CapturedLine)}
    (replayable : ∀ g ∈ groups, Replayable g) (ascending : Ascending groups) :
    ∀ {acc : List (String × List CapturedLine)}, (∀ h ∈ acc, ∀ g ∈ groups, h.1 < g.1) →
      (groups.flatMap (groupFields remaining fun _ _ => true)).foldl captureStep acc =
        acc ++ groups.map fun g => (g.1, g.2.map (·.replayed remaining)) := by
  induction groups with
  | nil => exact fun _ => by rw [List.flatMap_nil, List.foldl_nil, List.map_nil, List.append_nil]
  | cons g rest ih =>
      intro acc below
      rw [List.flatMap_cons, List.foldl_append,
        foldl_captureStep_group (replayable g List.mem_cons_self) remaining
          fun h member => below h member g List.mem_cons_self,
        ih (fun g' member => replayable g' (List.mem_cons_of_mem _ member)) ascending.of_cons,
        List.map_cons, List.append_assoc, List.singleton_append]
      intro h member g' later
      rcases List.mem_append.mp member with old | new
      · exact below h old g' (List.mem_cons_of_mem _ later)
      · rw [List.mem_singleton.mp new]
        exact List.rel_of_pairwise_cons ascending later

/-- Storing the headers a 200 from the cache replays gives back the stored lines, each with its
replayed text. -/
theorem capture_render_capture (hs : Headers) (remaining : Nat) :
    capture ((capture hs).render remaining) = (capture hs).replayed remaining := by
  rw [capture_eq, render, fields_renderFiltered,
    foldl_captureStep_groups remaining (replayable_capture hs) (ascending_capture hs)
      (fun _ absent => by cases absent),
    List.nil_append]
  rfl

theorem renderLine_replayed (second : Nat) (keep : String → HeaderKind → Bool) (key : String)
    (hn : HeaderName) (out : Headers) (line : CapturedLine) (first : Nat) :
    renderLine second keep key hn out (line.replayed first) = renderLine second keep key hn out line := by
  unfold renderLine
  rw [CapturedLine.replay_replayed]
  rfl

/-- Replaying replayed lines at a time is replaying the stored lines at that time. -/
theorem render_replayed (c : CapturedHeaders) (first second : Nat) :
    (c.replayed first).render second = c.render second := by
  rw [render, render, renderFiltered_eq, renderFiltered_eq, replayed, List.foldl_map]
  congr 1
  funext out g
  unfold renderGroup
  dsimp only
  cases HeaderName.ofText? g.1 with
  | none => rfl
  | some hn =>
      dsimp only
      rw [List.foldl_map]
      congr 1
      funext out line
      exact renderLine_replayed second _ g.1 hn out line first

/-- Replaying again, at any time, what was stored from a replay is replaying the stored headers at
that time. -/
theorem render_capture_render (hs : Headers) (first second : Nat) :
    (capture ((capture hs).render first)).render second = (capture hs).render second := by
  rw [capture_render_capture, render_replayed]

/-- The law of replay for stored headers: a 200 from the cache holds, under each name, the
response's text lines of that name in order, Cache-Control rewritten and the rest verbatim, and
nothing under connection-level names; a 304 holds the same under Cache-Control, ETag and Vary
only; and storing a replay gives back the stored lines with their replayed texts, so a later
replay of it is the replay of the stored lines at that time. -/
theorem captured_headers_replay_faithfully (hs : Headers) (remaining later : Nat)
    (name : HeaderName) :
    ((capture hs).render remaining).getAll name =
        (if hopByHop.contains name.text then []
        else if name = HeaderName.cacheControl then
          (hs.texts name).map fun t => HeaderValue.ofText (Freshness.rewriteMaxAge t remaining)
        else (hs.getAll name).filter fun v => v.text?.isSome) ∧
      ((capture hs).renderValidators remaining).getAll name =
        (if name.text = "cache-control" ∨ name.text = "etag" ∨ name.text = "vary" then
          ((capture hs).render remaining).getAll name
        else []) ∧
      capture ((capture hs).render remaining) = (capture hs).replayed remaining ∧
      (capture ((capture hs).render remaining)).render later = (capture hs).render later :=
  ⟨getAll_render_capture hs remaining name, getAll_renderValidators_capture hs remaining name,
    capture_render_capture hs remaining, render_capture_render hs remaining later⟩

/-- A response carrying `Cache-Control: max-age=60`, stored and served with 12 seconds left, then
stored again and served at 30. -/
theorem captured_headers_replay_cache_control :
    let hs : Headers :=
      ⟨[(HeaderName.cacheControl, ⟨"max-age=60".toList.map fun c => c.toNat.toUInt8⟩)]⟩
    ((capture hs).render 12).getAll HeaderName.cacheControl =
        (if hopByHop.contains HeaderName.cacheControl.text then []
        else if HeaderName.cacheControl = HeaderName.cacheControl then
          (hs.texts HeaderName.cacheControl).map fun t =>
            HeaderValue.ofText (Freshness.rewriteMaxAge t 12)
        else (hs.getAll HeaderName.cacheControl).filter fun v => v.text?.isSome) ∧
      ((capture hs).renderValidators 12).getAll HeaderName.cacheControl =
        (if HeaderName.cacheControl.text = "cache-control" ∨ HeaderName.cacheControl.text = "etag" ∨
            HeaderName.cacheControl.text = "vary" then
          ((capture hs).render 12).getAll HeaderName.cacheControl
        else []) ∧
      capture ((capture hs).render 12) = (capture hs).replayed 12 ∧
      (capture ((capture hs).render 12)).render 30 = (capture hs).render 30 := by
  intro hs
  exact captured_headers_replay_faithfully hs 12 30 HeaderName.cacheControl

end CapturedHeaders

end Cache
end ResponseCache
