import IncidentBoard.ListQuery.Action
import IncidentBoard.Proofs.Text.Utf8

/-!
# What actions change

The value of an action comes from outside. Whether it is accepted, and what it then changes, does
not depend on the query: an accepted action is a change, a refused one is none.

## Main definitions

* `Change`, `Action.change?` — what an accepted action changes.
* `ListQuery.apply`, `ListQuery.transition` — the query with a change, and the transition to it.
* `ListQuery.reduce_eq_ok_iff` — the transitions of actions are those of their changes.
* `ListQuery.follow` — the query after an action, accepted or not.
-/

namespace IncidentBoard

open IncidentBoard.Field

/-- What an accepted action changes. -/
inductive Change where
  | team (id : String)
  | search (term : Option String)
  | status (filter : Option StatusFilter)
  | commander (id : Option String)
  | page (number : Nat)
  /-- A click on the head of a column. -/
  | column (column : SortColumn)
  /-- A refresh. -/
  | nothing
  deriving DecidableEq, Repr

/-- The value of a filter text; one that counts as not given clears the filter. -/
def Json.filterText? (v : Json) : Option (Option String) :=
  if v.truthy then (Field.text v).toOption.map some else some none

/-- A text is taken as a filter as it is, the empty one and none at all clear the filter. -/
theorem Json.filterText?_ofText? (text : Option String) :
    (Json.ofText? text).filterText? = some (ListQuery.given? text) := by
  cases text with
  | none => rfl
  | some x =>
    by_cases empty : x = ""
    · subst empty
      rfl
    · have truthy : (Json.text x).truthy = true := by simp [Json.truthy, empty]
      simp [Json.ofText?, Json.filterText?, truthy, ListQuery.given?, Option.filter, empty,
        Field.text, Except.toOption]

/-- A filter is never set to the empty text. -/
theorem Json.filterText?_ne {v : Json} {text : Option String} (read : v.filterText? = some text) :
    text ≠ some "" := by
  unfold filterText? at read
  split at read
  · rename_i given
    cases ok : Field.text v with
    | ok s =>
      obtain rfl : some s = text := by simpa [ok, Except.toOption] using read
      simpa using asText?_ne_empty given (text_ok_iff.1 ok)
    | error e => simp [ok, Except.toOption] at read
  · simp [← Option.some.inj read]

/-- What an action changes if it is accepted; a refused action changes nothing and has none. -/
def Action.change? : Action → Option Change
  | .setTeam v => (text v).toOption.map .team
  | .setSearch v => v.filterText?.map .search
  | .setStatus v => (orNull (member StatusFilter.members) v).toOption.map .status
  | .setCommander v => v.filterText?.map .commander
  | .setPage v => (wholeFrom 0 v).toOption.map fun n => .page n.val.toNat
  | .activateColumn v => (ListQuery.column v).toOption.map .column
  | .refresh => some .nothing
  | .unknown _ => none

/-- Only a refresh is accepted and changes nothing by itself. -/
theorem Action.change?_eq_nothing_iff {a : Action} : a.change? = some .nothing ↔ a = .refresh := by
  cases a <;> simp [Action.change?]

namespace Change

def isFilter : Change → Bool
  | .search _ | .status _ | .commander _ => true
  | _ => false

def team? : Change → Option String
  | .team id => some id
  | _ => none

def search? : Change → Option (Option String)
  | .search term => some term
  | _ => none

def status? : Change → Option (Option StatusFilter)
  | .status filter => some filter
  | _ => none

def commander? : Change → Option (Option String)
  | .commander id => some id
  | _ => none

def page? : Change → Option Nat
  | .page number => some number
  | _ => none

def column? : Change → Option SortColumn
  | .column c => some c
  | _ => none

end Change

/-! ## Accepted actions -/

namespace ListQuery

/-- The query with a change. -/
def apply (q : ListQuery) : Change → ListQuery
  | .team id => { q with team := id }
  | .search term => { q with search := term }
  | .status filter => { q with status := filter }
  | .commander id => { q with commander := id }
  | .page number => { q with page := number }
  | .column c => q.activate c
  | .nothing => q

/-- The transition that a change leads to: a filter that changes turns back to the first page. -/
def transition (reset : Bool) (q : ListQuery) (c : Change) : Transition :=
  let next := q.apply c
  let next := if c.isFilter && reset && next ≠ q then { next with page := 0 } else next
  ⟨next, c = .nothing ∨ next ≠ q⟩

theorem toOption_field {α : Type} (name : String) (read : Reader α) (v : Json) :
    (field name read v).toOption = (read v).toOption := by
  unfold field
  cases read v <;> rfl

theorem toOption_filterText (name : String) (v : Json) :
    (filterText name v).toOption = v.filterText? := by
  unfold filterText Json.filterText?
  split
  · rw [← toOption_field name]
    cases field name text v <;> rfl
  · rfl

theorem toOption_map {α β : Type} (x : Except Failure α) (f : α → β) :
    (x.map f).toOption = x.toOption.map f := by
  cases x <;> rfl

/-- An action is accepted exactly when it is a change, whatever the query. -/
theorem toOption_update (q : ListQuery) (a : Action) :
    (q.update a).toOption = a.change?.map q.apply := by
  cases a with
  | refresh => rfl
  | unknown v => rfl
  | _ =>
    simp only [update, Action.change?, toOption_map, toOption_field, toOption_filterText,
      Option.map_map]
    rfl

theorem toOption_reduce (reset : Bool) (q : ListQuery) (a : Action) :
    (q.reduce reset a).toOption = a.change?.map (q.transition reset) := by
  have update := q.toOption_update a
  cases a with
  | refresh => rfl
  | unknown v => rfl
  | _ =>
    simp only [reduce, toOption_map, update, Action.change?, Option.map_map]
    refine congrArg (fun f => Option.map f _) (funext fun x => ?_)
    simp [transition, Change.isFilter, Action.isFilter]

/-- The transitions of actions are those of their changes. -/
theorem reduce_eq_ok_iff {reset : Bool} {q : ListQuery} {a : Action} {t : Transition} :
    q.reduce reset a = .ok t ↔ ∃ c, a.change? = some c ∧ q.transition reset c = t := by
  rw [← Option.map_eq_some_iff, ← toOption_reduce]
  cases q.reduce reset a <;> simp [Except.toOption]

/-- The query after an action; one that is refused changes nothing. -/
def follow (reset : Bool) (q : ListQuery) (a : Action) : ListQuery :=
  match q.reduce reset a with
  | .ok t => t.query
  | .error _ => q

theorem follow_eq (reset : Bool) (q : ListQuery) (a : Action) :
    q.follow reset a = (a.change?.map fun c => (q.transition reset c).query).getD q := by
  have reduced := q.toOption_reduce reset a
  unfold follow
  cases h : q.reduce reset a <;> rw [h] at reduced <;>
    cases hc : a.change? <;> simp_all [Except.toOption]

end ListQuery

end IncidentBoard
