import IncidentBoard.Proofs.Answer.Tiling

/-!
# Pages without items

A page has no items where it lies past the end of what its query asks for. Whether a query asks for
fewer incidents than those of its team is told by its filters: each of them that is set leaves out
some incident.

## Main definitions

* `ListQuery.Restricts` — a query may leave out an incident of its team.
* `ListQuery.isFiltering_iff`, `ListQuery.emptyMessage_eq` — when the filters are spoken of.
* `ListQuery.items_answer_eq_nil_iff` — when a page has no items.
-/

namespace IncidentBoard

namespace Text

theorem lowerChar_ne_nil (c : Char) : lowerChar c ≠ [] := by
  unfold lowerChar
  split
  · simp
  · split
    · simp
    · dsimp only
      split <;> simp

/-- Only the empty text has an empty lower case. -/
theorem lowercase_eq_nil {s : String} (empty : (lowercase s).toList = []) : s = "" := by
  rw [← String.toList_eq_nil_iff]
  unfold lowercase at empty
  split at empty
  · simpa using empty
  · rw [String.toList_ofList] at empty
    cases cs : s.toList with
    | nil => rfl
    | cons c rest =>
      rw [cs, lowerAfter, List.append_eq_nil_iff] at empty
      obtain ⟨none, -⟩ := empty
      split at none
      · split at none <;> cases none
      · exact absurd none (lowerChar_ne_nil c)

end Text

namespace ListQuery

variable {q : ListQuery} {xs : List Incident}

/-- A query restricts the incidents of its team: there may be one that it does not ask for. -/
def Restricts (q : ListQuery) : Prop := ∃ x : Incident, x.team = q.team ∧ ¬q.Satisfies x

theorem restricts_of_search {term : String} (set : q.search = some term) (given : term ≠ "") :
    q.Restricts := by
  refine ⟨{ (default : Incident) with team := q.team, name := "" }, rfl, fun satisfies => ?_⟩
  have occurs := satisfies.search term set given
  exact given (Text.lowercase_eq_nil (List.infix_nil.1 occurs))

theorem restricts_of_commander {id : String} (set : q.commander = some id) (given : id ≠ "") :
    q.Restricts := by
  refine ⟨{ (default : Incident) with team := q.team, commander := "" }, rfl, fun satisfies => ?_⟩
  exact given (satisfies.commander id set given).symm

theorem restricts_of_status {status : StatusFilter} (set : q.status = some status)
    (given : status ≠ .all) : q.Restricts := by
  cases status with
  | all => exact absurd rfl given
  | active =>
    refine ⟨{ (default : Incident) with team := q.team, isActive := false }, rfl, fun sat => ?_⟩
    cases sat.active set
  | ended =>
    refine ⟨{ (default : Incident) with team := q.team, isActive := true }, rfl, fun sat => ?_⟩
    cases sat.ended set

/-- A query has filters if and only if it restricts the incidents of its team. -/
theorem isFiltering_iff : q.isFiltering = true ↔ q.Restricts := by
  simp only [isFiltering, Bool.or_eq_true, Option.isSome_iff_exists, given?_eq_some, restriction?,
    Option.filter_eq_some_iff, decide_eq_true_eq]
  constructor
  · rintro ((⟨term, set, given⟩ | ⟨id, set, given⟩) | ⟨status, set, given⟩)
    · exact restricts_of_search set given
    · exact restricts_of_commander set given
    · exact restricts_of_status set given
  · rintro ⟨x, team, unsatisfied⟩
    by_contra unfiltered
    push Not at unfiltered
    obtain ⟨⟨search, commander⟩, status⟩ := unfiltered
    refine unsatisfied ⟨team, fun t set given => absurd given (by simpa using search t set),
      fun set => absurd (status _ set) (by decide), fun set => absurd (status _ set) (by decide),
      fun id set given => absurd given (by simpa using commander id set)⟩

/-- The filters are spoken of where the query restricts the incidents of its team. -/
theorem emptyMessage_eq (q : ListQuery) (teamName : String) :
    (q.Restricts → q.emptyMessage teamName =
        s!"There are no incidents for {teamName} matching those filters.") ∧
      (¬q.Restricts → q.emptyMessage teamName = s!"There are no incidents for {teamName}.") := by
  rw [← isFiltering_iff]
  exact ⟨fun filtering => if_pos filtering, fun unfiltered => if_neg unfiltered⟩

theorem total_answer (q : ListQuery) (xs : List Incident) :
    (q.answer xs).total = xs.countP (q.Satisfies ·) :=
  congrArg Nat.cast (q.length_matching xs)

/-- A page has no items where it lies past the end of what the query asks for. -/
theorem items_answer_eq_nil_iff :
    (q.answer xs).items = [] ↔ xs.countP (q.Satisfies ·) ≤ q.page * q.perPage := by
  rw [← length_matching, ← not_lt, ← slice_ne_nil q.perPage_pos, not_not]
  rfl

end ListQuery

end IncidentBoard
