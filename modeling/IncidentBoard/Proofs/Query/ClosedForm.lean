import IncidentBoard.Proofs.Lists
import IncidentBoard.Proofs.Query.Change
import Mathlib.Data.List.DropRight
import Mathlib.Data.List.Induction
import Mathlib.Logic.Function.Iterate

/-!
# The query after many actions

Whatever the actions, the query after them can be told without going through them: each field holds
the last value accepted for it, the page is the last one chosen unless a filter changed since, and
the order depends on how often the last column was clicked without a click on another one.

## Main definitions

* `ListQuery.followAll` — the query after a list of actions.
* `ListQuery.TurnedBack` — a filter changed since the last page was chosen.
* `ListQuery.ClosedForm` — what the query after a list of changes is.
* `ListQuery.followAll_closedForm` — after a list of actions it is that.
-/

namespace IncidentBoard

namespace Change

/-- The last value that changes give to a field, or the one it had. -/
def last {α : Type} (value? : Change → Option α) (changes : List Change) (first : α) : α :=
  (changes.filterMap value?).getLast?.getD first

@[simp] theorem last_nil {α : Type} (value? : Change → Option α) (first : α) :
    last value? [] first = first := rfl

@[simp] theorem last_concat {α : Type} (value? : Change → Option α) (changes : List Change)
    (c : Change) (first : α) :
    last value? (changes ++ [c]) first = (value? c).getD (last value? changes first) := by
  cases h : value? c <;> simp [last, h]

/-- How many clicks on a column end the clicks on heads of columns. -/
def clicks (changes : List Change) (c : SortColumn) : Nat :=
  ((changes.filterMap column?).rtakeWhile (· = c)).length

end Change

/-- The changes of the actions that are accepted. -/
def Action.changes (actions : List Action) : List Change := actions.filterMap Action.change?

namespace ListQuery

/-- The filters of a query. -/
def filters (q : ListQuery) : Option String × Option StatusFilter × Option String :=
  (q.search, q.status, q.commander)

/-- The filters after changes: the last values given to them. -/
def filtersAfter (q : ListQuery) (changes : List Change) :
    Option String × Option StatusFilter × Option String :=
  (Change.last Change.search? changes q.search, Change.last Change.status? changes q.status,
    Change.last Change.commander? changes q.commander)

/-- A change of a filter to another value came after the last choice of a page. -/
def TurnedBack (q : ListQuery) (changes : List Change) : Prop :=
  ∃ before c after, changes = before ++ c :: after ∧
    q.filtersAfter (before ++ [c]) ≠ q.filtersAfter before ∧ ∀ d ∈ after, d.page? = none

/-- What the query after changes is, told from the query before and the list of changes. -/
structure ClosedForm (reset : Bool) (q : ListQuery) (changes : List Change) (r : ListQuery) :
    Prop where
  perPage : r.perPage = q.perPage
  team : r.team = Change.last Change.team? changes q.team
  search : r.search = Change.last Change.search? changes q.search
  status : r.status = Change.last Change.status? changes q.status
  commander : r.commander = Change.last Change.commander? changes q.commander
  /-- A filter that changed turned back to the first page. -/
  first_page : reset = true → q.TurnedBack changes → r.page = 0
  chosen_page : (reset = true → ¬ q.TurnedBack changes) →
    r.page = Change.last Change.page? changes q.page
  sort : r.sort = Change.last Change.column? changes q.sort
  /-- Every click turned the same column around. -/
  order_flipped : (∀ c ∈ changes.filterMap Change.column?, c = q.sort) →
    r.order = SortOrder.flipped^[Change.clicks changes r.sort] q.order
  /-- The first of the last clicks came from another column. -/
  order_default : (∃ c ∈ changes.filterMap Change.column?, c ≠ q.sort) →
    r.order = SortOrder.flipped^[Change.clicks changes r.sort - 1] r.sort.defaultOrder

variable (reset : Bool) (q : ListQuery)

/-! ## One change more -/

/-- The query after changes. -/
def applyAll (changes : List Change) : ListQuery :=
  changes.foldl (fun q c => (q.transition reset c).query) q

@[simp] theorem applyAll_concat (changes : List Change) (c : Change) :
    q.applyAll reset (changes ++ [c]) = ((q.applyAll reset changes).transition reset c).query := by
  simp [applyAll]

/-- A change that is no choice of a page keeps the page or turns back to the first one. -/
theorem transition_query (c : Change) : (q.transition reset c).query =
    { q.apply c with
      page := if c.isFilter && reset && q.apply c ≠ q then 0 else (q.apply c).page } := by
  simp only [transition]
  split <;> rfl

/-- A field that turning back leaves alone holds the last value given to it. -/
theorem applyAll_last {α : Type} (get : ListQuery → α) (value? : Change → Option α)
    (turned : ∀ (q : ListQuery) (n : Nat), get { q with page := n } = get q)
    (apply : ∀ (q : ListQuery) (c : Change), get (q.apply c) = (value? c).getD (get q))
    (changes : List Change) :
    get (q.applyAll reset changes) = Change.last value? changes (get q) := by
  induction changes using List.reverseRecOn with
  | nil => rfl
  | append_singleton changes c ih =>
    rw [applyAll_concat, transition_query, turned, apply, ih, Change.last_concat]

theorem applyAll_filters (changes : List Change) :
    (q.applyAll reset changes).filters = q.filtersAfter changes := by
  unfold filters filtersAfter
  rw [applyAll_last reset q ListQuery.search Change.search? (fun _ _ => rfl)
      (fun _ c => by cases c <;> rfl),
    applyAll_last reset q ListQuery.status Change.status? (fun _ _ => rfl)
      (fun _ c => by cases c <;> rfl),
    applyAll_last reset q ListQuery.commander Change.commander? (fun _ _ => rfl)
      (fun _ c => by cases c <;> rfl)]

theorem applyAll_sort (changes : List Change) :
    (q.applyAll reset changes).sort = Change.last Change.column? changes q.sort := by
  refine applyAll_last reset q ListQuery.sort Change.column? (fun _ _ => rfl) ?_ changes
  intro p c
  cases c with
  | column d => exact p.activate_sort d
  | _ => rfl

/-! ## The page -/

/-- A change of a filter is one of the query exactly when the filter gets another value. -/
theorem apply_eq_self_iff {c : Change} (filter : c.isFilter = true) :
    q.apply c = q ↔ (q.apply c).filters = q.filters := by
  cases q
  cases c <;> simp_all [apply, filters, Change.isFilter]

theorem apply_filters {c : Change} (other : c.isFilter = false) :
    (q.apply c).filters = q.filters := by
  cases c <;> first | rfl | simp [Change.isFilter] at other

/-- The page after a change: the one it chooses, else the first one if a filter changed. -/
theorem transition_page (c : Change) : (q.transition reset c).query.page =
    c.page?.getD
      (if reset = true ∧ (q.transition reset c).query.filters ≠ q.filters then 0 else q.page) := by
  have kept : (q.transition reset c).query.filters = (q.apply c).filters := by
    rw [transition_query]
    rfl
  rw [kept, transition_query]
  cases filter : c.isFilter with
  | true =>
    have page : (q.apply c).page = q.page ∧ c.page? = none := by
      cases c <;> simp_all [Change.isFilter, apply, Change.page?]
    simp [page, q.apply_eq_self_iff filter]
  | false =>
    have page : (q.apply c).page = c.page?.getD q.page := by cases c <;> rfl
    simp [page, q.apply_filters filter]

variable {q} in
/-- Nothing has turned back when a page was chosen last. -/
theorem not_turnedBack_concat {changes : List Change} {c : Change} (page : c.page? ≠ none) :
    ¬ q.TurnedBack (changes ++ [c]) := by
  rintro ⟨before, d, after, split, changed, later⟩
  rcases concat_eq_split_iff.1 split with ⟨rfl, rfl, -⟩ | ⟨rest, -, rfl⟩
  · cases c <;> simp_all [Change.page?, filtersAfter, Change.search?, Change.status?,
      Change.commander?]
  · exact page (later c (by simp))

variable {q} in
/-- A change that chooses no page turns back if it changes a filter, or if one before did. -/
theorem turnedBack_concat_iff {changes : List Change} {c : Change} (other : c.page? = none) :
    q.TurnedBack (changes ++ [c]) ↔
      q.filtersAfter (changes ++ [c]) ≠ q.filtersAfter changes ∨ q.TurnedBack changes := by
  constructor
  · rintro ⟨before, d, after, split, changed, later⟩
    rcases concat_eq_split_iff.1 split with ⟨rfl, rfl, -⟩ | ⟨rest, rfl, rfl⟩
    · exact .inl changed
    · exact .inr ⟨before, d, rest, rfl, changed, fun x hx => later x (by simp [hx])⟩
  · rintro (changed | ⟨before, d, after, rfl, changed, later⟩)
    · exact ⟨changes, c, [], rfl, changed, by simp⟩
    · refine ⟨before, d, after ++ [c], by simp, changed, fun x hx => ?_⟩
      rcases List.mem_append.1 hx with hx | hx
      · exact later x hx
      · exact List.mem_singleton.1 hx ▸ other

theorem applyAll_page (changes : List Change) :
    (reset = true → q.TurnedBack changes → (q.applyAll reset changes).page = 0) ∧
      ((reset = true → ¬ q.TurnedBack changes) →
        (q.applyAll reset changes).page = Change.last Change.page? changes q.page) := by
  induction changes using List.reverseRecOn with
  | nil =>
    refine ⟨fun _ turned => ?_, fun _ => rfl⟩
    obtain ⟨before, c, after, split, -⟩ := turned
    simp at split
  | append_singleton changes c ih =>
    rw [Change.last_concat, applyAll_concat, transition_page, ← applyAll_concat,
      applyAll_filters, applyAll_filters]
    cases chosen : c.page? with
    | some n =>
      have kept : ¬ q.TurnedBack (changes ++ [c]) := not_turnedBack_concat (by simp [chosen])
      exact ⟨fun _ turned => absurd turned kept, fun _ => rfl⟩
    | none =>
      rw [turnedBack_concat_iff chosen]
      simp only [Option.getD_none]
      split
      · rename_i changed
        exact ⟨fun _ _ => rfl, fun kept => absurd (.inl changed.2) (kept changed.1)⟩
      · rename_i same
        refine ⟨fun on turned => ih.1 on (turned.resolve_left fun changed => same ⟨on, changed⟩),
          fun kept => ih.2 fun on turned => kept on (.inr turned)⟩

/-! ## The order -/

/-- The order after a change: a click turns its column around or starts it anew. -/
theorem transition_order (c : Change) : (q.transition reset c).query.order =
    (c.column?.map fun d => if q.sort = d then q.order.flipped else d.defaultOrder).getD
      q.order := by
  rw [transition_query]
  cases c with
  | column d =>
    simp only [apply, activate, nextSort, Change.column?, Option.map_some, Option.getD_some]
    split <;> rfl
  | _ => rfl

theorem clicks_concat_self {changes : List Change} {c : Change} {d : SortColumn}
    (click : c.column? = some d) :
    Change.clicks (changes ++ [c]) d = Change.clicks changes d + 1 := by
  simp [Change.clicks, click, List.rtakeWhile_concat_pos]

/-- A column that was not the last one clicked ends the clicks no time. -/
theorem clicks_of_last_ne {changes : List Change} {first d : SortColumn}
    (other : Change.last Change.column? changes first ≠ d) : Change.clicks changes d = 0 := by
  unfold Change.clicks
  unfold Change.last at other
  rcases List.eq_nil_or_concat' (changes.filterMap Change.column?) with none | ⟨rest, e, some⟩
  · simp [none]
  · rw [some] at other ⊢
    rw [List.rtakeWhile_concat_neg _ _ _ (by simpa using other)]
    rfl

/-- The last column clicked ends the clicks at least once. -/
theorem clicks_last_pos {changes : List Change} (first : SortColumn)
    (clicked : changes.filterMap Change.column? ≠ []) :
    0 < Change.clicks changes (Change.last Change.column? changes first) := by
  unfold Change.clicks Change.last
  rcases List.eq_nil_or_concat' (changes.filterMap Change.column?) with none | ⟨rest, e, some⟩
  · exact absurd none clicked
  · simp [some, List.rtakeWhile_concat_pos]

/-- The last column clicked is the one sorted by when all clicks were on that. -/
theorem last_column_of_all {changes : List Change} {first : SortColumn}
    (all : ∀ c ∈ changes.filterMap Change.column?, c = first) :
    Change.last Change.column? changes first = first := by
  unfold Change.last
  rcases List.eq_nil_or_concat' (changes.filterMap Change.column?) with none | ⟨rest, e, some⟩
  · simp [none]
  · have member : e ∈ changes.filterMap Change.column? := by simp [some]
    simp [some, all e member]

/-- The order that a query is left in by clicks on the heads of columns. -/
theorem applyAll_order (changes : List Change) :
    let last := Change.last Change.column? changes q.sort
    ((∀ c ∈ changes.filterMap Change.column?, c = q.sort) →
        (q.applyAll reset changes).order =
          SortOrder.flipped^[Change.clicks changes last] q.order) ∧
      ((∃ c ∈ changes.filterMap Change.column?, c ≠ q.sort) →
        (q.applyAll reset changes).order =
          SortOrder.flipped^[Change.clicks changes last - 1] last.defaultOrder) := by
  induction changes using List.reverseRecOn with
  | nil => exact ⟨fun _ => rfl, fun ⟨_, clicked, _⟩ => nomatch clicked⟩
  | append_singleton changes c ih =>
    dsimp only at ih ⊢
    rw [applyAll_concat, transition_order, applyAll_sort, Change.last_concat]
    cases click : c.column? with
    | none =>
      have same (d : SortColumn) : Change.clicks (changes ++ [c]) d = Change.clicks changes d := by
        simp [Change.clicks, click]
      simpa [click, same] using ih
    | some d =>
      simp only [Option.map_some, Option.getD_some, clicks_concat_self click,
        List.filterMap_append, List.filterMap_cons, click, List.filterMap_nil, List.mem_append,
        List.mem_singleton]
      by_cases again : Change.last Change.column? changes q.sort = d
      · -- one click more on the last column: the clicks before are those of the hypothesis
        subst again
        rw [if_pos rfl]
        refine ⟨fun all => ?_, fun ⟨e, clicked, other⟩ => ?_⟩
        · rw [ih.1 fun e he => all e (.inl he), Function.iterate_succ_apply' SortOrder.flipped]
        · have before : ∃ e ∈ changes.filterMap Change.column?, e ≠ q.sort := by
            by_contra none
            have all : ∀ e ∈ changes.filterMap Change.column?, e = q.sort := by simpa using none
            rcases clicked with clicked | rfl
            · exact other (all e clicked)
            · exact other (last_column_of_all all)
          have pos := clicks_last_pos q.sort (List.ne_nil_of_mem before.choose_spec.1)
          rw [ih.2 before, ← Function.iterate_succ_apply' SortOrder.flipped]
          exact congrArg (fun n => SortOrder.flipped^[n] _) (by omega)
      · -- a column clicked anew: it is the only one at the end, in its first direction
        rw [if_neg again, clicks_of_last_ne again]
        refine ⟨fun all => ?_, fun _ => rfl⟩
        have all' : ∀ e ∈ changes.filterMap Change.column?, e = q.sort :=
          fun e he => all e (.inl he)
        exact absurd ((last_column_of_all all').trans (all d (.inr rfl)).symm) again

/-! ## Many actions -/

theorem applyAll_closedForm (changes : List Change) :
    ClosedForm reset q changes (q.applyAll reset changes) where
  perPage := by
    refine applyAll_last reset q ListQuery.perPage (fun _ => none) (fun _ _ => rfl) ?_ changes
      |>.trans (by simp [Change.last])
    intro p c
    cases c <;> rfl
  team := applyAll_last reset q ListQuery.team Change.team? (fun _ _ => rfl)
    (fun _ c => by cases c <;> rfl) changes
  search := congrArg (·.1) (q.applyAll_filters reset changes)
  status := congrArg (·.2.1) (q.applyAll_filters reset changes)
  commander := congrArg (·.2.2) (q.applyAll_filters reset changes)
  first_page := (q.applyAll_page reset changes).1
  chosen_page := (q.applyAll_page reset changes).2
  sort := q.applyAll_sort reset changes
  order_flipped all := q.applyAll_sort reset changes ▸ (q.applyAll_order reset changes).1 all
  order_default other := q.applyAll_sort reset changes ▸ (q.applyAll_order reset changes).2 other

/-- The query after actions; those that are refused are skipped. -/
def followAll (actions : List Action) : ListQuery := actions.foldl (follow reset) q

@[simp] theorem followAll_concat (actions : List Action) (a : Action) :
    q.followAll reset (actions ++ [a]) = (q.followAll reset actions).follow reset a := by
  simp [followAll]

theorem followAll_eq (actions : List Action) :
    q.followAll reset actions = q.applyAll reset (Action.changes actions) := by
  induction actions using List.reverseRecOn with
  | nil => rfl
  | append_singleton actions a ih =>
    rw [followAll_concat, follow_eq, ih]
    cases change : a.change? <;> simp [Action.changes, change]

/-- After any list of actions, those that are refused being skipped, the query is told by its closed
form. An action is refused or not whatever the query, every query on the way is valid, and one step
needs a fetch exactly if it refreshes or changes the query. -/
theorem followAll_closedForm (actions : List Action) :
    ClosedForm reset q (Action.changes actions) (q.followAll reset actions) ∧
      (∀ (a : Action) (p : ListQuery),
        (∃ t, p.reduce reset a = .ok t) ↔ ∃ c, a.change? = some c) ∧
      ∀ before a, before ++ [a] <+: actions →
        let p := q.followAll reset before
        (0 ≤ p.page ∧ 1 ≤ p.perPage) ∧ ∀ t, p.reduce reset a = .ok t →
          t.query = q.followAll reset (before ++ [a]) ∧
            (t.fetchNeeded = true ↔ a = .refresh ∨ t.query ≠ p) := by
  refine ⟨q.followAll_eq reset actions ▸ q.applyAll_closedForm reset _, fun a p => ?_,
    fun before a _ => ⟨⟨Nat.zero_le _, (q.followAll reset before).perPage_pos⟩, fun t ok => ?_⟩⟩
  · simp [reduce_eq_ok_iff]
  · refine ⟨by simp [follow, ok], ?_⟩
    obtain ⟨c, change, rfl⟩ := reduce_eq_ok_iff.1 ok
    rw [← Action.change?_eq_nothing_iff, change]
    simp [transition]

end ListQuery

end IncidentBoard
