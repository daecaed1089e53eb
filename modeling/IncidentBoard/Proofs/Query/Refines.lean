import IncidentBoard.Proofs.Query.ClosedForm

/-!
# Filters that are set once

Filters are set one after the other, each of them at most once, in any order. The query then differs
from the one before in its filters alone, and in the page, which is the first one if a filter has
another value now.

## Main definitions

* `ListQuery.Refines` — a query with other filters.
* `ListQuery.Refines.search`, `ListQuery.Refines.commander`, `ListQuery.Refines.status` — a filter
  that is set.
-/

namespace IncidentBoard

namespace ListQuery

variable {reset : Bool} {q p : ListQuery} {c : Change}

/-- A query that differs from another one in filters: where one differs, the page is the first
one, if that is wanted. -/
structure Refines (reset : Bool) (q p : ListQuery) : Prop where
  team : p.team = q.team
  perPage : p.perPage = q.perPage
  sort : p.sort = q.sort
  order : p.order = q.order
  page : p.page = if reset = true ∧ p.filters ≠ q.filters then 0 else q.page

theorem transition_filters (reset : Bool) (p : ListQuery) (c : Change) :
    (p.transition reset c).query.filters = (p.apply c).filters := by
  rw [transition_query]
  rfl

namespace Refines

theorem refl (reset : Bool) (q : ListQuery) : Refines reset q q :=
  ⟨rfl, rfl, rfl, rfl, by simp⟩

/-- A filter that is set to the value it has, or to one that tells the filters from those at
first. -/
theorem transition (R : Refines reset q p) (filter : c.isFilter = true)
    (fresh : (p.apply c).filters = p.filters ∨ (p.apply c).filters ≠ q.filters) :
    Refines reset q (p.transition reset c).query := by
  have kept : (p.apply c).team = p.team ∧ (p.apply c).perPage = p.perPage ∧
      (p.apply c).sort = p.sort ∧ (p.apply c).order = p.order ∧ c.page? = none := by
    cases c <;> first | exact ⟨rfl, rfl, rfl, rfl, rfl⟩ | cases filter
  obtain ⟨team, perPage, sort, order, unpaged⟩ := kept
  have page := p.transition_page reset c
  rw [unpaged, Option.getD_none, transition_filters, R.page] at page
  refine ⟨?_, ?_, ?_, ?_, ?_⟩
  · rw [transition_query]
    exact team.trans R.team
  · rw [transition_query]
    exact perPage.trans R.perPage
  · rw [transition_query]
    exact sort.trans R.sort
  · rw [transition_query]
    exact order.trans R.order
  · rw [page, transition_filters]
    rcases fresh with same | other
    · simp [same]
    · by_cases same : (p.apply c).filters = p.filters
      · simp [same]
      · by_cases on : reset = true <;> simp [on, same, other]

theorem search (R : Refines reset q p) (unset : p.search = q.search) (term : Option String) :
    Refines reset q (p.transition reset (.search term)).query := by
  refine R.transition rfl ?_
  by_cases same : term = q.search
  · exact .inl (by simp [apply, filters, same, unset])
  · exact .inr (by simp [apply, filters, same])

theorem commander (R : Refines reset q p) (unset : p.commander = q.commander)
    (id : Option String) : Refines reset q (p.transition reset (.commander id)).query := by
  refine R.transition rfl ?_
  by_cases same : id = q.commander
  · exact .inl (by simp [apply, filters, same, unset])
  · exact .inr (by simp [apply, filters, same])

theorem status (R : Refines reset q p) (unset : p.status = q.status)
    (filter : Option StatusFilter) :
    Refines reset q (p.transition reset (.status filter)).query := by
  refine R.transition rfl ?_
  by_cases same : filter = q.status
  · exact .inl (by simp [apply, filters, same, unset])
  · exact .inr (by simp [apply, filters, same])

end Refines

end ListQuery

end IncidentBoard
