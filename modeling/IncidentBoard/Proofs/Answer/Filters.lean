import IncidentBoard.ListQuery.Answer
import Mathlib.Data.List.Basic

/-!
# The filters of a query

What it means for an incident to be asked for, one condition for each filter. A filter that is not
set, or is set to the empty text or to all, has no condition.

## Main definitions

* `ListQuery.Satisfies` — the conditions of a query.
* `ListQuery.selects_iff` — a query selects the incidents that satisfy it.
-/

namespace IncidentBoard

section Occurs

variable {α : Type} [BEq α] [LawfulBEq α]

theorem occursIn_iff {piece whole : List α} : occursIn piece whole = true ↔ piece <:+: whole := by
  induction whole with
  | nil => simp [occursIn]
  | cons x rest ih =>
    rw [occursIn, Bool.or_eq_true, List.isPrefixOf_iff_prefix, ih, List.infix_cons_iff]

end Occurs

namespace ListQuery

theorem given?_eq_some {s : Option String} {t : String} :
    given? s = some t ↔ s = some t ∧ t ≠ "" := by
  simp [given?, Option.filter_eq_some_iff]

theorem given?_eq_none {s : Option String} : given? s = none ↔ ∀ t, s = some t → t = "" := by
  simp [given?, Option.filter_eq_none_iff]

theorem given?_eq_self {s : Option String} (filled : s ≠ some "") : given? s = s := by
  cases s with
  | none => rfl
  | some t => exact given?_eq_some.2 ⟨rfl, fun empty => filled (empty ▸ rfl)⟩

/-- What an incident has to satisfy to be asked for by a query. -/
structure Satisfies (q : ListQuery) (x : Incident) : Prop where
  team : x.team = q.team
  search : ∀ t, q.search = some t → t ≠ "" →
    (Text.lowercase t).toList <:+: (Text.lowercase x.name).toList
  active : q.status = some .active → x.isActive = true
  ended : q.status = some .ended → x.isActive = false
  commander : ∀ id, q.commander = some id → id ≠ "" → x.commander = id

theorem searchAllows_iff {term : Option String} {name : String} :
    searchAllows term name = true ↔ ∀ t, term = some t → t ≠ "" →
      (Text.lowercase t).toList <:+: (Text.lowercase name).toList := by
  unfold searchAllows
  split
  · rename_i t ht
    obtain ⟨rfl, ne⟩ := given?_eq_some.1 ht
    simp [textOccursIn, occursIn_iff, ne]
  · rename_i none
    refine iff_of_true rfl fun t ht ne => ?_
    exact absurd (given?_eq_none.1 none t ht) ne

theorem commanderAllows_iff {wanted : Option String} {commander : String} :
    commanderAllows wanted commander = true ↔
      ∀ id, wanted = some id → id ≠ "" → commander = id := by
  unfold commanderAllows
  split
  · rename_i id hid
    obtain ⟨rfl, ne⟩ := given?_eq_some.1 hid
    simp [ne]
  · rename_i none
    refine iff_of_true rfl fun id hid ne => ?_
    exact absurd (given?_eq_none.1 none id hid) ne

theorem statusAllows_iff {status : Option StatusFilter} {isActive : Bool} :
    statusAllows status isActive = true ↔
      (status = some .active → isActive = true) ∧ (status = some .ended → isActive = false) := by
  unfold statusAllows
  split <;> simp_all

theorem selects_iff {q : ListQuery} {x : Incident} : q.selects x = true ↔ q.Satisfies x := by
  simp only [selects, Bool.and_eq_true, beq_iff_eq, searchAllows_iff, statusAllows_iff,
    commanderAllows_iff]
  constructor
  · rintro ⟨⟨⟨team, search⟩, active, ended⟩, commander⟩
    exact ⟨team, search, active, ended, commander⟩
  · intro s
    exact ⟨⟨⟨s.team, s.search⟩, s.active, s.ended⟩, s.commander⟩

instance (q : ListQuery) : DecidablePred q.Satisfies := fun _ => decidable_of_iff _ selects_iff

theorem filter_selects (q : ListQuery) (xs : List Incident) :
    xs.filter q.selects = xs.filter (q.Satisfies ·) :=
  List.filter_congr fun x _ => by rw [Bool.eq_iff_iff, selects_iff, decide_eq_true_iff]

end ListQuery

end IncidentBoard
