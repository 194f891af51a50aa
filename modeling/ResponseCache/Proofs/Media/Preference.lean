import Mathlib.Data.List.Induction
import ResponseCache.Media.Accept
/-!
# How an Accept header rates and chooses media types

The preference of an Accept header for a media type is decided by the ranges compatible with it:
the most specific of them decide, the greatest quality among those is the preference's quality,
and a quality of zero refuses the type (`preference_eq_some_iff`). Negotiation over a list of
types picks the first one whose preference is greatest, by quality and then by specificity, and
picks nothing only when no type is preferred at all (`negotiate_eq_some_iff`,
`negotiate_eq_none_iff`).

Both are running maxima. Rating keeps a later range on a tie, but tied ranges give equal
preferences, so the order of the ranges does not show. Negotiation replaces its choice only on a
strict gain, which is what makes the first of the best types stick.
-/

namespace ResponseCache
namespace Media

/-- The preference a range would give a type it is compatible with. -/
def MediaRange.rank (r : MediaRange) : Preference := ⟨r.quality, r.media.specificity⟩

namespace Preference

/-- `p` is at least as specific as `q`, and of at least its quality when equally specific: the
order in which the compatible ranges decide a preference. -/
def Overrides (p q : Preference) : Prop :=
  q.specificity < p.specificity ∨ (q.specificity = p.specificity ∧ q.quality ≤ p.quality)

instance (p q : Preference) : Decidable (p.Overrides q) :=
  inferInstanceAs (Decidable (_ ∨ _))

theorem Overrides.refl (p : Preference) : p.Overrides p := .inr ⟨rfl, Nat.le_refl _⟩

theorem Overrides.trans {p q r : Preference} (pq : p.Overrides q) (qr : q.Overrides r) :
    p.Overrides r := by
  unfold Overrides at *
  omega

theorem Overrides.total (p q : Preference) : p.Overrides q ∨ q.Overrides p := by
  unfold Overrides
  omega

theorem Overrides.antisymm {p q : Preference} (pq : p.Overrides q) (qp : q.Overrides p) :
    p = q := by
  obtain ⟨pQuality, pSpecificity⟩ := p
  obtain ⟨qQuality, qSpecificity⟩ := q
  dsimp only [Overrides] at pq qp
  simp only [Preference.mk.injEq]
  omega

theorem lt_iff {p q : Preference} :
    p.lt q = true ↔ p.quality < q.quality ∨ (p.quality = q.quality ∧ p.specificity < q.specificity) := by
  simp only [Preference.lt, Bool.or_eq_true, Bool.and_eq_true, decide_eq_true_eq, beq_iff_eq]

theorem lt_eq_false_iff {p q : Preference} :
    p.lt q = false ↔ q.quality < p.quality ∨ (q.quality = p.quality ∧ q.specificity ≤ p.specificity) := by
  rw [← Bool.not_eq_true, lt_iff]
  omega

theorem lt_irrefl (p : Preference) : p.lt p = false := by
  rw [lt_eq_false_iff]
  omega

/-- Below or equal to `p`, and `p` below `q`: below `q`. -/
theorem lt_of_not_lt_of_lt {p q r : Preference} (below : p.lt r = false) (gain : p.lt q = true) :
    r.lt q = true := by
  rw [lt_eq_false_iff] at below
  rw [lt_iff] at gain ⊢
  omega

end Preference

open Preference

namespace Accept

/-! ## Rating one type -/

/-- The preference an Accept header gives a media type, as its rules state it: some compatible
range decides it; no compatible range is more specific; none equally specific has a greater
quality; and the quality is not zero. -/
structure Rates (a : Accept) (m : MediaType) (p : Preference) : Prop where
  /-- A compatible range of this specificity and quality. -/
  deciding : ∃ r ∈ a.ranges, r.media.isCompatible m = true ∧ r.rank = p
  /-- No compatible range is more specific. -/
  mostSpecific : ∀ r ∈ a.ranges, r.media.isCompatible m = true →
    r.media.specificity ≤ p.specificity
  /-- No compatible range of the deciding specificity has a greater quality. -/
  greatest : ∀ r ∈ a.ranges, r.media.isCompatible m = true →
    r.media.specificity = p.specificity → r.quality ≤ p.quality
  /-- The type is not refused. -/
  positive : 0 < p.quality

theorem keepBetter_some (b p : Preference) :
    keepBetter (some b) p = if p.Overrides b then some p else some b := by
  have decides : (p.specificity > b.specificity ||
      (p.specificity == b.specificity && p.quality ≥ b.quality)) = true ↔ p.Overrides b := by
    simp only [Overrides, Bool.or_eq_true, Bool.and_eq_true, decide_eq_true_eq, beq_iff_eq]
    omega
  dsimp only [keepBetter]
  by_cases wins : p.Overrides b
  · rw [if_pos (decides.mpr wins), if_pos wins]
  · rw [if_neg (mt decides.mp wins), if_neg wins]

/-- Started from `c`, keeping the better preference leaves one that is `c` or a later one and that
overrides them all. -/
theorem foldl_keepBetter (ps : List Preference) :
    ∀ c : Preference, ∃ best, ps.foldl keepBetter (some c) = some best ∧ (best ∈ ps ∨ best = c) ∧
      best.Overrides c ∧ ∀ q ∈ ps, best.Overrides q := by
  induction ps with
  | nil => exact fun c => ⟨c, rfl, .inr rfl, Overrides.refl c, fun _ missing => by cases missing⟩
  | cons p rest ih =>
      intro c
      obtain ⟨kept, step, origin, overC, overP⟩ : ∃ kept, keepBetter (some c) p = some kept ∧
          (kept = p ∨ kept = c) ∧ kept.Overrides c ∧ kept.Overrides p := by
        rw [keepBetter_some]
        by_cases wins : p.Overrides c
        · exact ⟨p, if_pos wins, .inl rfl, wins, Overrides.refl p⟩
        · exact ⟨c, if_neg wins, .inr rfl, Overrides.refl c,
            (Overrides.total c p).resolve_right wins⟩
      obtain ⟨best, run, listed, overKept, overRest⟩ := ih kept
      refine ⟨best, by rw [List.foldl_cons, step, run], ?_, overKept.trans overC, ?_⟩
      · rcases listed with later | rfl
        · exact .inl (List.mem_cons_of_mem _ later)
        · rcases origin with rfl | rfl
          · exact .inl List.mem_cons_self
          · exact .inr rfl
      · intro q member
        rcases List.mem_cons.mp member with rfl | later
        · exact overKept.trans overP
        · exact overRest q later

variable {a : Accept} {m : MediaType} {p : Preference}

/-- The ranks of the ranges compatible with a type, in order. -/
def ranks (a : Accept) (m : MediaType) : List Preference :=
  (a.ranges.filter (·.media.isCompatible m)).map MediaRange.rank

theorem preference_eq (a : Accept) (m : MediaType) :
    a.preference m = ((a.ranks m).foldl keepBetter none).filter (0 < ·.quality) := by
  rw [ranks, List.foldl_map]
  rfl

theorem mem_ranks {q : Preference} :
    q ∈ a.ranks m ↔ ∃ r ∈ a.ranges, r.media.isCompatible m = true ∧ r.rank = q := by
  simp only [ranks, List.mem_map, List.mem_filter, and_assoc]

/-- The bounds of `Rates` say that the preference overrides the rank of every compatible range. -/
theorem overrides_iff_bounds :
    (∀ q ∈ a.ranks m, p.Overrides q) ↔
      (∀ r ∈ a.ranges, r.media.isCompatible m = true → r.media.specificity ≤ p.specificity) ∧
        ∀ r ∈ a.ranges, r.media.isCompatible m = true →
          r.media.specificity = p.specificity → r.quality ≤ p.quality := by
  constructor
  · intro wins
    have each : ∀ r ∈ a.ranges, r.media.isCompatible m = true →
        r.media.specificity ≤ p.specificity ∧
          (r.media.specificity = p.specificity → r.quality ≤ p.quality) := by
      intro r member compatible
      have ranked := wins r.rank (mem_ranks.mpr ⟨r, member, compatible, rfl⟩)
      simp only [Overrides, MediaRange.rank] at ranked
      omega
    exact ⟨fun r member compatible => (each r member compatible).1,
      fun r member compatible => (each r member compatible).2⟩
  · intro ⟨specific, greatest⟩ q listed
    obtain ⟨r, member, compatible, rfl⟩ := mem_ranks.mp listed
    have below := specific r member compatible
    have equal := greatest r member compatible
    simp only [Overrides, MediaRange.rank]
    omega

/-- The preference of a type is exactly what the header's rules give it. -/
theorem preference_eq_some_iff : a.preference m = some p ↔ Rates a m p := by
  rw [preference_eq]
  cases listed : a.ranks m with
  | nil =>
      refine ⟨(fun missing => by cases missing), fun rates => ?_⟩
      obtain ⟨r, member, compatible, rfl⟩ := rates.deciding
      have ranked := mem_ranks.mpr ⟨r, member, compatible, rfl⟩
      rw [listed] at ranked
      cases ranked
  | cons first rest =>
      obtain ⟨best, run, origin, overFirst, overRest⟩ := foldl_keepBetter rest first
      have overAll : ∀ q ∈ a.ranks m, best.Overrides q := by
        rw [listed]
        intro q member
        rcases List.mem_cons.mp member with rfl | later
        · exact overFirst
        · exact overRest q later
      have kept : best ∈ a.ranks m := by
        rw [listed]
        rcases origin with later | rfl
        · exact List.mem_cons_of_mem _ later
        · exact List.mem_cons_self
      have fold : (first :: rest).foldl keepBetter none = some best := run
      rw [fold]
      constructor
      · intro filtered
        obtain ⟨same, positive⟩ := Option.filter_eq_some_iff.mp filtered
        obtain rfl := Option.some.inj same
        obtain ⟨specific, greatest⟩ := overrides_iff_bounds.mp overAll
        exact ⟨mem_ranks.mp kept, specific, greatest, by simpa using positive⟩
      · intro rates
        have above := overrides_iff_bounds.mpr ⟨rates.mostSpecific, rates.greatest⟩ best kept
        obtain ⟨r, member, compatible, ranked⟩ := rates.deciding
        have below := overAll p (mem_ranks.mpr ⟨r, member, compatible, ranked⟩)
        rw [Overrides.antisymm below above]
        exact Option.filter_eq_some_iff.mpr ⟨rfl, by simpa using rates.positive⟩

-- `text/html;q=0` refuses HTML although `text/*` accepts it: the more specific range decides.
example :
    Accept.preference ⟨[⟨⟨"text", "*"⟩, 500⟩, ⟨⟨"text", "html"⟩, 0⟩]⟩ ⟨"text", "html"⟩ = none := by
  decide

/-! ## Choosing among types -/

/-- One step of negotiation: a type replaces the choice so far when the header prefers it
strictly. -/
def pick (a : Accept) (best : Option (Nat × MediaType × Preference)) (im : Nat × MediaType) :
    Option (Nat × MediaType × Preference) :=
  match a.preference im.2 with
  | none => best
  | some p =>
    match best with
    | none => some (im.1, im.2, p)
    | some (_, _, cur) => if cur.lt p then some (im.1, im.2, p) else best

/-- The choice after the types of a list, with its position and preference. -/
def choice (a : Accept) (available : List MediaType) : Option (Nat × MediaType × Preference) :=
  (available.zipIdx.map fun x => (x.2, x.1)).foldl (pick a) none

theorem pick_of_unrated (best : Option (Nat × MediaType × Preference)) {n : Nat} {x : MediaType}
    (rated : a.preference x = none) : pick a best (n, x) = best := by
  simp only [pick, rated]

theorem pick_none_of_rated {n : Nat} {x : MediaType} {q : Preference}
    (rated : a.preference x = some q) : pick a none (n, x) = some (n, x, q) := by
  simp only [pick, rated]

theorem pick_some_of_rated {i n : Nat} {m x : MediaType} {q : Preference}
    (rated : a.preference x = some q) :
    pick a (some (i, m, p)) (n, x) = if p.lt q then some (n, x, q) else some (i, m, p) := by
  simp only [pick, rated]

theorem negotiate_eq (a : Accept) (available : List MediaType) :
    a.negotiate available = (choice a available).map fun b => (b.1, b.2.1) := by
  dsimp only [negotiate]
  rfl

theorem choice_append (a : Accept) (l : List MediaType) (x : MediaType) :
    choice a (l ++ [x]) = pick a (choice a l) (l.length, x) := by
  simp [choice, List.zipIdx_append, List.foldl_append]

/-- Position `i` of `available` holds `m`, preferred as `p`, the greatest preference of the list,
and every type before it is preferred less. -/
structure Leads (a : Accept) (available : List MediaType) (i : Nat) (m : MediaType)
    (p : Preference) : Prop where
  position : available[i]? = some m
  rated : a.preference m = some p
  greatest : ∀ (j : Nat) m' p', available[j]? = some m' → a.preference m' = some p' →
    p.lt p' = false
  first : ∀ (j : Nat) m' p', j < i → available[j]? = some m' → a.preference m' = some p' →
    p'.lt p = true

theorem getElem?_concat_eq_some {α : Type} {l : List α} {x y : α} {j : Nat}
    (found : (l ++ [x])[j]? = some y) : (j < l.length ∧ l[j]? = some y) ∨ (j = l.length ∧ y = x) := by
  rw [List.getElem?_append] at found
  by_cases before : j < l.length
  · rw [if_pos before] at found
    exact .inl ⟨before, found⟩
  · rw [if_neg before, List.getElem?_singleton] at found
    split at found
    · exact .inr ⟨by omega, (Option.some.inj found).symm⟩
    · cases found

namespace Leads

variable {l : List MediaType} {i : Nat} {x : MediaType} {q : Preference}

theorem lt_length (leads : Leads a l i m p) : i < l.length :=
  (List.getElem?_eq_some_iff.mp leads.position).1

/-- A type that is preferred no more than the choice leaves it standing. -/
theorem concat_of_not_lt (leads : Leads a l i m p)
    (noGain : ∀ q, a.preference x = some q → p.lt q = false) : Leads a (l ++ [x]) i m p where
  position := by rw [List.getElem?_append_left leads.lt_length, leads.position]
  rated := leads.rated
  greatest := by
    intro j m' p' found rated
    rcases getElem?_concat_eq_some found with ⟨-, earlier⟩ | ⟨-, rfl⟩
    · exact leads.greatest j m' p' earlier rated
    · exact noGain p' rated
  first := by
    intro j m' p' before found rated
    rw [List.getElem?_append_left (Nat.lt_trans before leads.lt_length)] at found
    exact leads.first j m' p' before found rated

/-- A type preferred strictly more than every earlier one becomes the choice. -/
theorem concat_of_gain (rated : a.preference x = some q)
    (gain : ∀ (j : Nat) m' p', l[j]? = some m' → a.preference m' = some p' → p'.lt q = true) :
    Leads a (l ++ [x]) l.length x q where
  position := List.getElem?_concat_length
  rated := rated
  greatest := by
    intro j m' p' found rated'
    rcases getElem?_concat_eq_some found with ⟨-, earlier⟩ | ⟨-, rfl⟩
    · have below := gain j m' p' earlier rated'
      rw [lt_iff] at below
      rw [lt_eq_false_iff]
      omega
    · rw [rated] at rated'
      cases rated'
      exact lt_irrefl q
  first := by
    intro j m' p' before found rated'
    rw [List.getElem?_append_left before] at found
    exact gain j m' p' found rated'

/-- Two leading positions are one: the earlier would be preferred less than the later. -/
theorem unique {i' : Nat} {m' : MediaType} {p' : Preference} (leads : Leads a l i m p)
    (other : Leads a l i' m' p') : i = i' ∧ m = m' := by
  have same : i = i' := by
    rcases Nat.lt_trichotomy i i' with before | same | after
    · have gain := other.first i m p before leads.position leads.rated
      rw [leads.greatest i' m' p' other.position other.rated] at gain
      cases gain
    · exact same
    · have gain := leads.first i' m' p' after other.position other.rated
      rw [other.greatest i m p leads.position leads.rated] at gain
      cases gain
  subst same
  have found := other.position
  rw [leads.position] at found
  exact ⟨rfl, Option.some.inj found⟩

end Leads

/-- What the choice after a list says: nothing chosen means nothing preferred, and a choice
leads the list. -/
def Chosen (a : Accept) (l : List MediaType) (best : Option (Nat × MediaType × Preference)) :
    Prop :=
  (best = none → ∀ m ∈ l, a.preference m = none) ∧
    ∀ i m p, best = some (i, m, p) → Leads a l i m p

theorem Leads.chosen {l : List MediaType} {i : Nat} (leads : Leads a l i m p) :
    Chosen a l (some (i, m, p)) := by
  refine ⟨(fun chosenNone => by cases chosenNone), fun i' m' p' kept => ?_⟩
  simp only [Option.some.injEq, Prod.mk.injEq] at kept
  obtain ⟨rfl, rfl, rfl⟩ := kept
  exact leads

/-- One step of negotiation keeps the choice right. -/
theorem Chosen.pick {l : List MediaType} {best : Option (Nat × MediaType × Preference)}
    (chosen : Chosen a l best) (x : MediaType) :
    Chosen a (l ++ [x]) (pick a best (l.length, x)) := by
  cases rated : a.preference x with
  | none =>
      rw [pick_of_unrated best rated]
      refine ⟨fun unchosen m member => ?_, fun i m p kept => (chosen.2 i m p kept).concat_of_not_lt
        fun q rated' => by rw [rated] at rated'; cases rated'⟩
      rcases List.mem_append.mp member with earlier | last
      · exact chosen.1 unchosen m earlier
      · rw [List.mem_singleton.mp last, rated]
  | some q =>
      cases best with
      | none =>
          rw [pick_none_of_rated rated]
          refine (Leads.concat_of_gain rated fun j m' p' found rated' => ?_).chosen
          rw [chosen.1 rfl m' (List.mem_of_getElem? found)] at rated'
          cases rated'
      | some current =>
          obtain ⟨i, m, p⟩ := current
          have leads := chosen.2 i m p rfl
          rw [pick_some_of_rated rated]
          by_cases gain : p.lt q = true
          · rw [if_pos gain]
            exact (Leads.concat_of_gain rated fun j n r found rated' =>
              lt_of_not_lt_of_lt (leads.greatest j n r found rated') gain).chosen
          · rw [if_neg gain]
            refine (leads.concat_of_not_lt fun r rated' => ?_).chosen
            rw [rated] at rated'
            cases rated'
            simpa using gain

theorem chosen_choice (a : Accept) (available : List MediaType) :
    Chosen a available (choice a available) := by
  induction available using List.reverseRecOn with
  | nil => exact ⟨(fun _ m member => by cases member), fun i m p chose => by cases chose⟩
  | append_singleton l x ih =>
      rw [choice_append]
      exact ih.pick x

/-- Negotiation picks the first type of the greatest preference. -/
theorem negotiate_eq_some_iff {available : List MediaType} {i : Nat} :
    a.negotiate available = some (i, m) ↔ ∃ p, Leads a available i m p := by
  rw [negotiate_eq]
  constructor
  · intro picked
    obtain ⟨⟨i', m', p⟩, chose, same⟩ := Option.map_eq_some_iff.mp picked
    simp only [Prod.mk.injEq] at same
    obtain ⟨rfl, rfl⟩ := same
    exact ⟨p, (chosen_choice a available).2 i' m' p chose⟩
  · intro ⟨p, leads⟩
    cases chose : choice a available with
    | none =>
        have unrated := (chosen_choice a available).1 chose m
          (List.mem_of_getElem? leads.position)
        rw [leads.rated] at unrated
        cases unrated
    | some best =>
        obtain ⟨i', m', p'⟩ := best
        obtain ⟨rfl, rfl⟩ := leads.unique ((chosen_choice a available).2 i' m' p' chose)
        rfl

/-- Negotiation picks nothing exactly when no type is preferred. -/
theorem negotiate_eq_none_iff {available : List MediaType} :
    a.negotiate available = none ↔ ∀ m ∈ available, a.preference m = none := by
  rw [negotiate_eq, Option.map_eq_none_iff]
  constructor
  · exact (chosen_choice a available).1
  · intro unrated
    cases chose : choice a available with
    | none => rfl
    | some best =>
        obtain ⟨i, m, p⟩ := best
        have leads := (chosen_choice a available).2 i m p chose
        have none := unrated m (List.mem_of_getElem? leads.position)
        rw [leads.rated] at none
        cases none

/-- An Accept header rates a type by its most specific compatible ranges, and negotiation picks
the first of the types it rates highest, or none when it rates none. -/
theorem preference_and_negotiate_spec (a : Accept) (m : MediaType) (p : Preference)
    (available : List MediaType) (i : Nat) (chosen : MediaType) :
    (a.preference m = some p ↔ Rates a m p) ∧
      (a.negotiate available = some (i, chosen) ↔ ∃ q, Leads a available i chosen q) ∧
        (a.negotiate available = none ↔ ∀ x ∈ available, a.preference x = none) :=
  ⟨preference_eq_some_iff, negotiate_eq_some_iff, negotiate_eq_none_iff⟩

end Accept

end Media
end ResponseCache
