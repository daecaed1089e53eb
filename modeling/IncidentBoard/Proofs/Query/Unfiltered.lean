import IncidentBoard.Proofs.Answer.Emptiness
import IncidentBoard.Proofs.Query.Sent
import Mathlib.Tactic.TFAE

/-!
# Queries without filters

A filter that is not set may also be given as the empty text or as all. Whether a query filters,
what is sent for it, what it finds and what is read back from what is sent all tell the same: none
of them tells these spellings apart.

## Main definitions

* `ListQuery.Unfiltered` — no filter of a query filters anything.
* `ListQuery.settled_eq_of_sent` — what is sent for a query, but for the spelling of its filters,
  is the query.
* `ListQuery.filters_agree` — all places agree on which filters are set.
-/

namespace IncidentBoard

/-! ## Words -/

theorem SortColumn.word_injective : Function.Injective SortColumn.word := by
  intro a b same
  simpa using congrArg SortColumn.ofWord? same

theorem SortOrder.word_injective : Function.Injective SortOrder.word := by
  intro a b
  cases a <;> cases b <;> simp [SortOrder.word]

theorem StatusFilter.word_injective : Function.Injective StatusFilter.word := by
  intro a b
  cases a <;> cases b <;> simp [StatusFilter.word]

theorem Json.text_injective : Function.Injective text := fun _ _ same => Json.text.inj same

namespace ListQuery

variable {p q : ListQuery}

/-- No filter of a query filters anything. -/
structure Unfiltered (q : ListQuery) : Prop where
  search : given? q.search = none
  status : restriction? q.status = none
  commander : given? q.commander = none

theorem isFiltering_eq_false_iff : q.isFiltering = false ↔ q.Unfiltered := by
  simp only [isFiltering, Bool.or_eq_false_iff, Option.isSome_eq_false_iff,
    Option.isNone_iff_eq_none]
  constructor
  · rintro ⟨⟨search, commander⟩, status⟩
    exact ⟨search, status, commander⟩
  · rintro ⟨search, status, commander⟩
    exact ⟨⟨search, commander⟩, status⟩

/-! ## What is sent -/

theorem pairs_eq_fieldsWith (q : ListQuery) :
    q.pairs = q.fieldsWith (.int q.page) (.int q.perPage) := by
  simp [pairs, fieldsWith, filterField, Function.comp_def]

/-- The names under which something is sent for every query. -/
def plainNames : List String := ["team_id", "page", "per_page", "sort", "order"]

theorem names_pairs (q : ListQuery) :
    q.pairs.map Prod.fst = plainNames ++ ((given? q.search).map fun _ => "search_term").toList ++
      ((restriction? q.status).map fun _ => "status").toList ++
        ((given? q.commander).map fun _ => "commander_user_id").toList := by
  simp [pairs, plainNames, Option.toList_map, Function.comp_def]

/-- Other names are sent for filters that filter something, and only for these. -/
theorem names_eq_plainNames_iff : q.pairs.map Prod.fst = plainNames ↔ q.Unfiltered := by
  rw [names_pairs, List.append_assoc, List.append_assoc, List.append_right_eq_self]
  simp only [List.append_eq_nil_iff, Option.toList_eq_nil_iff, Option.map_eq_none_iff]
  exact ⟨fun ⟨search, status, commander⟩ => ⟨search, status, commander⟩,
    fun none => ⟨none.search, none.status, none.commander⟩⟩

/-! ## What is found -/

/-- Where a query does not restrict the incidents of its team it counts all of them, and where it
does it leaves one out of some list. -/
theorem total_eq_iff : (∀ xs : List Incident, (q.answer xs).total = xs.countP (·.team = q.team)) ↔
    ¬q.Restricts := by
  constructor
  · rintro counts ⟨x, team, unsatisfied⟩
    have one := counts [x]
    rw [total_answer] at one
    simp [team, unsatisfied] at one
  · intro whole xs
    rw [total_answer]
    refine congrArg Nat.cast (List.countP_congr fun x _ => ?_)
    simp only [decide_eq_true_eq]
    exact ⟨Satisfies.team, fun team => by_contra fun unsatisfied => whole ⟨x, team, unsatisfied⟩⟩

/-! ## What is read back -/

/-- What is sent for a query is read as the query without the filters that filter nothing. -/
theorem read_pairs (q : ListQuery) : read (.object q.pairs) = .ok q.settled := by
  rw [pairs_eq_fieldsWith]
  refine read_fieldsWith ?_ ?_
  · simp [Field.wholeFrom, Field.whole]
  · have some : (1 : Int) ≤ q.perPage := by exact_mod_cast q.perPage_pos
    simp [Field.wholeFrom, Field.whole, some]

theorem restriction?_restriction? (s : Option StatusFilter) :
    restriction? (restriction? s) = restriction? s := by
  simp [restriction?]

theorem pairs_settled (q : ListQuery) : q.settled.pairs = q.pairs := by
  simp only [pairs, settled, given?_given?, restriction?_restriction?]

theorem isFiltering_settled (q : ListQuery) : q.settled.isFiltering = q.isFiltering := by
  simp only [isFiltering, settled, given?_given?, restriction?_restriction?]

theorem unfiltered_iff_settled :
    q.Unfiltered ↔ q.settled.search = none ∧ q.settled.status = none ∧ q.settled.commander = none :=
  ⟨fun none => ⟨none.search, none.status, none.commander⟩,
    fun ⟨search, status, commander⟩ => ⟨search, status, commander⟩⟩

/-! ## Queries that send the same -/

/-- Queries that send the same under every name differ at most in filters that filter nothing. -/
theorem settled_eq_of_sent
    (same : ∀ name, Json.Fields.get? p.pairs name = Json.Fields.get? q.pairs name) :
    p.settled = q.settled := by
  simp only [pairs_eq_fieldsWith] at same
  obtain ⟨team, page, perPage, sort, order, search, status, commander⟩ :=
    p.get?_fieldsWith (.int p.page) (.int p.perPage)
  obtain ⟨team', page', perPage', sort', order', search', status', commander'⟩ :=
    q.get?_fieldsWith (.int q.page) (.int q.perPage)
  rw [same, team', Option.some.injEq, Json.text.injEq] at team
  rw [same, page', Option.some.injEq, Json.int.injEq, Int.natCast_inj] at page
  rw [same, perPage', Option.some.injEq, Json.int.injEq, Int.natCast_inj] at perPage
  rw [same, sort', Option.some.injEq, Json.text.injEq] at sort
  rw [same, order', Option.some.injEq, Json.text.injEq] at order
  rw [same, search'] at search
  rw [same, status'] at status
  rw [same, commander'] at commander
  simp only [settled, ListQuery.mk.injEq]
  exact ⟨team.symm, page.symm, perPage.symm, SortColumn.word_injective sort.symm,
    SortOrder.word_injective order.symm, Option.map_injective Json.text_injective search.symm,
    Option.map_injective StatusFilter.word_injective
      (Option.map_injective Json.text_injective status.symm),
    Option.map_injective Json.text_injective commander.symm⟩

/-- A query without filters is told in four ways, which all agree: it does not count as filtering;
only the names that stand for every query are sent for it; on every list it counts all incidents of
its team; and what is read back from what is sent has no filter at all.

What is sent for a query tells everything about it but the spelling of its filters: it is read back
as a query for which the same is sent, and queries that send the same under every name have the
same page on every list, filter alike, and say the same where they find nothing. -/
theorem filters_agree (p : ListQuery) :
    [p.isFiltering = false,
      p.pairs.map Prod.fst = plainNames,
      ∀ xs : List Incident, (p.answer xs).total = xs.countP (·.team = p.team),
      ∃ r, read (.object p.pairs) = .ok r ∧ r.search = none ∧ r.status = none ∧
        r.commander = none].TFAE ∧
    (∃ r, read (.object p.pairs) = .ok r ∧ r.pairs = p.pairs) ∧
    ∀ q : ListQuery, (∀ name, Json.Fields.get? p.pairs name = Json.Fields.get? q.pairs name) →
      (∀ xs, p.answer xs = q.answer xs) ∧ p.isFiltering = q.isFiltering ∧
        ∀ teamName, p.emptyMessage teamName = q.emptyMessage teamName := by
  refine ⟨?_, ⟨p.settled, p.read_pairs, p.pairs_settled⟩, fun q same => ?_⟩
  · tfae_have 1 ↔ 2 := isFiltering_eq_false_iff.trans names_eq_plainNames_iff.symm
    tfae_have 1 ↔ 3 := by rw [total_eq_iff, ← isFiltering_iff, Bool.not_eq_true]
    tfae_have 1 ↔ 4 := by
      rw [isFiltering_eq_false_iff, unfiltered_iff_settled, p.read_pairs]
      simp
    tfae_finish
  · have settled := settled_eq_of_sent same
    have filtering : p.isFiltering = q.isFiltering := by
      rw [← p.isFiltering_settled, settled, q.isFiltering_settled]
    refine ⟨fun xs => ?_, filtering, fun teamName => ?_⟩
    · rw [← p.answer_settled, settled, q.answer_settled]
    · rw [emptyMessage, emptyMessage, filtering]

/-- Empty texts and all, against no filter. -/
theorem filters_agree_of_empty_texts :
    let q : ListQuery := .first "t" 15 (by decide)
    let p : ListQuery := { q with search := some "", status := some .all, commander := some "" }
    p ≠ q ∧ (∀ name, Json.Fields.get? p.pairs name = Json.Fields.get? q.pairs name) ∧
      (∀ xs, p.answer xs = q.answer xs) ∧ p.emptyMessage "T" = q.emptyMessage "T" := by
  intro q p
  have same : ∀ name, Json.Fields.get? p.pairs name = Json.Fields.get? q.pairs name := fun _ => rfl
  obtain ⟨answers, -, messages⟩ := p.filters_agree.2.2 q same
  exact ⟨by decide, same, answers, messages "T"⟩

end ListQuery

end IncidentBoard
