import IncidentBoard.Proofs.Query.ClosedForm

/-!
# The fetches of actions

Which queries have to be fetched when actions follow each other, and what a search term changes
that counts among them.

## Main definitions

* `ListQuery.fetches` — the queries that actions need to have fetched.
* `ListQuery.follow_setSearch` — a search term leaves all but the search and the page alone.
-/

namespace IncidentBoard

namespace ListQuery

variable (reset : Bool) (q : ListQuery)

/-- The queries that actions need to have fetched, in order; what is refused needs none. -/
def fetches (reset : Bool) : ListQuery → List Action → List ListQuery
  | _, [] => []
  | q, a :: rest =>
    match q.reduce reset a with
    | .ok t => if t.fetchNeeded then t.query :: fetches reset t.query rest
      else fetches reset t.query rest
    | .error _ => fetches reset q rest

theorem fetches_cons (a : Action) (rest : List Action) :
    q.fetches reset (a :: rest) = q.fetches reset [a] ++ (q.follow reset a).fetches reset rest := by
  simp only [fetches, follow]
  cases q.reduce reset a with
  | error f => rfl
  | ok t => cases needed : t.fetchNeeded <;> simp [needed]

theorem fetches_concat (actions : List Action) (a : Action) :
    q.fetches reset (actions ++ [a]) =
      q.fetches reset actions ++ (q.followAll reset actions).fetches reset [a] := by
  induction actions generalizing q with
  | nil => rfl
  | cons b rest ih =>
    rw [List.cons_append, fetches_cons, ih, fetches_cons reset q b rest, List.append_assoc]
    rfl

/-- A search term that counts changes the search, and the page if it turns back to the first one. -/
theorem follow_setSearch (v : Json) : ∃ term, q.follow reset (.setSearch v) =
    { q with search := term, page := if reset && term ≠ q.search then 0 else q.page } := by
  rw [follow_eq]
  cases change : (Action.setSearch v).change? with
  | none => exact ⟨q.search, by simp⟩
  | some c =>
    obtain ⟨term, -, rfl⟩ := Option.map_eq_some_iff.1 change
    refine ⟨term, ?_⟩
    have changes : q.apply (.search term) = q ↔ term = q.search := by
      rw [q.apply_eq_self_iff rfl]
      simp [apply, filters]
    simp only [Option.map_some, Option.getD_some, transition_query, Change.isFilter,
      Bool.true_and, ne_eq, changes]
    rfl

end ListQuery

end IncidentBoard
