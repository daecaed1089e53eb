import IncidentBoard.Proofs.Query.Change

/-!
# Refused actions

Whether an action is refused, and with which failure, is told by its value alone. The query that
follows an action is the whole record of the query read again with the new values in it; of what was
there before nothing is ever refused.

## Main definitions

* `Action.refusal?`, `ListQuery.reduce_eq_error_iff` — the failure of an action.
* `Action.Acceptable`, `Action.refusal?_eq_none_iff` — the values that are accepted.
* `Action.Names`, `Action.names_of_refusal?` — a failure names the action, the column or the field.
* `ListQuery.update_eq_read` — the query after an action, as the whole record is read.
-/

namespace IncidentBoard

open IncidentBoard.Field

/-- What went wrong, if anything did. -/
def Failure.of? {α : Type} : Except Failure α → Option Failure
  | .ok _ => none
  | .error f => some f

namespace Failure

variable {α β : Type} {x : Except Failure α} {f : Failure}

theorem of?_map (g : α → β) : of? (x.map g) = of? x := by
  cases x <;> rfl

theorem of?_eq_some_iff : of? x = some f ↔ x = .error f := by
  cases x <;> simp [of?]

theorem of?_eq_none_iff : of? x = none ↔ ∃ a, x = .ok a := by
  cases x <;> simp [of?]

end Failure

namespace Action

/-- The failure of an action, whatever the query. -/
def refusal? : Action → Option Failure
  | .setTeam v => Failure.of? (ListQuery.field "team_id" text v)
  | .setSearch v => Failure.of? (ListQuery.filterText "search_term" v)
  | .setStatus v => Failure.of? (ListQuery.field "status" (orNull (member StatusFilter.members)) v)
  | .setCommander v => Failure.of? (ListQuery.filterText "commander_user_id" v)
  | .setPage v => Failure.of? (ListQuery.field "page" (wholeFrom 0) v)
  | .activateColumn v => Failure.of? (ListQuery.column v)
  | .refresh => none
  | .unknown v => some (.foreign (.unknownAction v))

/-- The values that are accepted: a text for a team, a text or what counts as not given for a
filter, no status or a word for one, a number from zero on for a page, and the word of a column. The
octets of a text do for the text, though not for the word of a column. -/
def Acceptable : Action → Prop
  | .setTeam v => ∃ s, v.asText? = some s
  | .setSearch v | .setCommander v => v.truthy = true → ∃ s, v.asText? = some s
  | .setStatus v => v = .null ∨ ∃ s : StatusFilter, v.asText? = some s.word
  | .setPage v => ∃ n : Int, whole v = .ok n ∧ 0 ≤ n
  | .activateColumn v => ∃ c : SortColumn, v = .text c.word
  | .refresh => True
  | .unknown _ => False

/-- The field that an action sets to the value given for it. -/
def field? : Action → Option String
  | .setTeam _ => some "team_id"
  | .setSearch _ => some "search_term"
  | .setStatus _ => some "status"
  | .setCommander _ => some "commander_user_id"
  | .setPage _ => some "page"
  | .activateColumn _ | .refresh | .unknown _ => none

/-- A failure tells what it is about: a value that is no action, one that is no column, or the one
field that the action sets. -/
inductive Names : Action → Failure → Prop
  | action (v : Json) : Names (.unknown v) (.foreign (.unknownAction v))
  | column (v : Json) : Names (.activateColumn v) (.foreign (.notAColumn v))
  | field {a : Action} {name : String} (cause : Cause) (sets : a.field? = some name) :
      Names a (.rejected ⟨ListQuery.model, [⟨[.name name], cause⟩]⟩)

end Action

namespace ListQuery

variable {reset : Bool} {q : ListQuery} {a : Action} {f : Failure}

theorem of?_update (q : ListQuery) (a : Action) : Failure.of? (q.update a) = a.refusal? := by
  cases a with
  | refresh => rfl
  | unknown v => rfl
  | _ => exact Failure.of?_map _

/-- An action is refused with its failure, whatever the query. -/
theorem reduce_eq_error_iff : q.reduce reset a = .error f ↔ a.refusal? = some f := by
  rw [← Failure.of?_eq_some_iff, ← q.of?_update a]
  cases a with
  | refresh => rfl
  | _ =>
    unfold reduce
    rw [Failure.of?_map]

/-! ## The values that are accepted -/

theorem of?_field_eq_none_iff {α : Type} {name : String} {read : Reader α} {v : Json} :
    Failure.of? (field name read v) = none ↔ ∃ x, read v = .ok x := by
  unfold field
  cases read v <;> simp [Reading.within, Reading.of, Failure.ofRejection, Failure.of?]

theorem of?_filterText_eq_none_iff {name : String} {v : Json} :
    Failure.of? (filterText name v) = none ↔ (v.truthy = true → ∃ s, text v = .ok s) := by
  unfold filterText
  split
  · rename_i given
    rw [Failure.of?_map, of?_field_eq_none_iff]
    simp [given]
  · rename_i cleared
    simp [cleared, Failure.of?]

end ListQuery

namespace Field

variable {α : Type} {read : Reader α} {v : Json}

theorem orNull_ok_iff : (∃ x, orNull read v = .ok x) ↔ v = .null ∨ ∃ x, read v = .ok x := by
  unfold orNull
  split
  · simp
  · rename_i other
    have given : v ≠ .null := other
    cases read v <;> simp [given]

theorem wholeFrom_ok_iff {bound : Int} :
    (∃ x, wholeFrom bound v = .ok x) ↔ ∃ n, whole v = .ok n ∧ bound ≤ n := by
  unfold wholeFrom
  split
  · rename_i n ok
    split
    · rename_i above
      simp [ok, above]
    · rename_i below
      simp [ok, below, flawed]
  · rename_i e failed
    simp [failed]

/-- What is found under a word has that word. -/
theorem eq_word_of_lookup {word : α → String} {xs : List α} {s : String} {x : α}
    (found : (xs.map fun y => (word y, y)).lookup s = some x) : s = word x := by
  induction xs with
  | nil => cases found
  | cons y rest ih =>
    rw [List.map_cons, List.lookup_cons] at found
    split at found
    · rename_i same
      rw [← Option.some.inj found]
      exact eq_of_beq same
    · exact ih found

theorem status_ok_iff {s : StatusFilter} :
    member StatusFilter.members v = .ok s ↔ v.asText? = some s.word := by
  constructor
  · intro read
    unfold member at read
    split at read
    · rename_i found
      obtain ⟨word, text, found⟩ := Option.bind_eq_some_iff.1 found
      rw [text, eq_word_of_lookup found, Except.ok.inj read]
    · cases read
  · intro text
    rw [member, text]
    cases s <;> rfl

theorem column_ok_iff {c : SortColumn} : ListQuery.column v = .ok c ↔ v = .text c.word := by
  constructor
  · intro read
    unfold ListQuery.column at read
    split at read
    · split at read
      · rename_i word _ found
        rw [eq_word_of_lookup found, Except.ok.inj read]
      · cases read
    · cases read
  · rintro rfl
    simp [ListQuery.column]

end Field

namespace Action

open ListQuery IncidentBoard.Field in
/-- An action is accepted exactly if its value is. -/
theorem refusal?_eq_none_iff {a : Action} : a.refusal? = none ↔ a.Acceptable := by
  cases a with
  | setTeam v => simp only [refusal?, Acceptable, of?_field_eq_none_iff, text_ok_iff]
  | setSearch v => simp only [refusal?, Acceptable, of?_filterText_eq_none_iff, text_ok_iff]
  | setStatus v =>
    simp only [refusal?, Acceptable, of?_field_eq_none_iff, orNull_ok_iff, status_ok_iff]
  | setCommander v => simp only [refusal?, Acceptable, of?_filterText_eq_none_iff, text_ok_iff]
  | setPage v => simp only [refusal?, Acceptable, of?_field_eq_none_iff, wholeFrom_ok_iff]
  | activateColumn v =>
    simp only [refusal?, Acceptable, Failure.of?_eq_none_iff, column_ok_iff]
  | refresh => simp [refusal?, Acceptable]
  | unknown v => simp [refusal?, Acceptable]

end Action

/-! ## What a failure names -/

namespace Field

variable {α : Type} {read : Reader α} {v : Json} {flaws : List Flaw}

/-- Flaws that are one, of the whole value. -/
def Single (flaws : List Flaw) : Prop := ∃ cause, flaws = [⟨[], cause⟩]

theorem Single.of_flawed {cause : Cause} (failed : (flawed cause : Reading α) = .error flaws) :
    Single flaws := ⟨cause, (Except.error.inj failed).symm⟩

theorem single_of_text (failed : text v = .error flaws) : Single flaws := by
  cases v with
  | bytes os =>
    simp only [text] at failed
    split at failed
    · cases failed
    · exact .of_flawed failed
  | _ => first | exact .of_flawed failed | cases failed

theorem single_of_fromOctets {read : String → Reading α} {cause : Cause} {os : List UInt8}
    (single : ∀ s flaws, read s = .error flaws → Single flaws)
    (failed : fromOctets read cause os = .error flaws) : Single flaws := by
  unfold fromOctets at failed
  split at failed
  · exact single _ _ failed
  · exact .of_flawed failed

theorem single_of_member {members : List (String × α)} (failed : member members v = .error flaws) :
    Single flaws := by
  unfold member at failed
  split at failed
  · cases failed
  · exact .of_flawed failed

theorem single_of_orNull (single : ∀ flaws, read v = .error flaws → Single flaws)
    (failed : orNull read v = .error flaws) : Single flaws := by
  unfold orNull at failed
  split at failed
  · cases failed
  · split at failed
    · cases failed
    · rename_i e unread
      exact single _ (Except.error.inj failed ▸ unread)

theorem single_of_wholeOfReal {x : Binary64} (failed : wholeOfReal x = .error flaws) :
    Single flaws := by
  unfold wholeOfReal at failed
  split at failed
  · exact .of_flawed failed
  · split at failed
    · exact .of_flawed failed
    · split at failed
      · exact .of_flawed failed
      · cases failed

theorem single_of_wholeOfText {s : String} (failed : wholeOfText s = .error flaws) :
    Single flaws := by
  unfold wholeOfText at failed
  split at failed
  split at failed
  · exact .of_flawed failed
  · dsimp only at failed
    split at failed
    · exact .of_flawed failed
    · cases failed

theorem single_of_wholeFrom {bound : Int} (failed : wholeFrom bound v = .error flaws) :
    Single flaws := by
  unfold wholeFrom at failed
  split at failed
  · split at failed
    · cases failed
    · exact .of_flawed failed
  · rename_i e unread
    obtain rfl := Except.error.inj failed
    cases v with
    | text s => exact single_of_wholeOfText unread
    | bytes os => exact single_of_fromOctets (fun _ _ => single_of_wholeOfText) unread
    | real x => exact single_of_wholeOfReal unread
    | int n => cases unread
    | bool b => cases unread
    | _ => exact .of_flawed unread

end Field

namespace Action

variable {a : Action} {f : Failure}

theorem Names.of_field {α : Type} {name : String} {read : Reader α} {v : Json}
    (sets : a.field? = some name) (single : ∀ flaws, read v = .error flaws → Field.Single flaws)
    (failed : Failure.of? (ListQuery.field name read v) = some f) : Names a f := by
  cases unread : read v with
  | ok x =>
    simp [ListQuery.field, unread, Reading.within, Reading.of, Failure.ofRejection,
      Failure.of?] at failed
  | error flaws =>
    obtain ⟨cause, rfl⟩ := single flaws unread
    obtain rfl : Failure.rejected ⟨ListQuery.model, [⟨[.name name], cause⟩]⟩ = f := by
      simpa [ListQuery.field, unread, Reading.within, Reading.of, Failure.ofRejection, Failure.of?,
        Flaw.within] using failed
    exact .field cause sets

theorem Names.of_filterText {name : String} {v : Json} (sets : a.field? = some name)
    (failed : Failure.of? (ListQuery.filterText name v) = some f) : Names a f := by
  unfold ListQuery.filterText at failed
  split at failed
  · rw [Failure.of?_map] at failed
    exact .of_field sets (fun _ => single_of_text) failed
  · cases failed

/-- A failure names what it is about. -/
theorem names_of_refusal? (refused : a.refusal? = some f) : Names a f := by
  cases a with
  | setTeam v => exact .of_field rfl (fun _ => single_of_text) refused
  | setSearch v => exact .of_filterText rfl refused
  | setStatus v =>
    exact .of_field rfl (fun _ => single_of_orNull fun _ => single_of_member) refused
  | setCommander v => exact .of_filterText rfl refused
  | setPage v => exact .of_field rfl (fun _ => single_of_wholeFrom) refused
  | activateColumn v =>
    have failed : Failure.foreign (.notAColumn v) = f := by
      have unread : ListQuery.column v = .error f := Failure.of?_eq_some_iff.1 refused
      unfold ListQuery.column at unread
      split at unread
      · split at unread
        · cases unread
        · exact Except.error.inj unread
      · exact Except.error.inj unread
    exact failed ▸ .column v
  | refresh => cases refused
  | unknown v =>
    cases refused
    exact .action v

end Action

/-! ## The whole record read again -/

namespace ListQuery

/-- The fields that an action writes into the record of a query. -/
def written (q : ListQuery) : Action → Except Failure Json.Fields
  | .setTeam v => .ok [("team_id", v)]
  | .setSearch v => .ok [("search_term", if v.truthy then v else .null)]
  | .setStatus v => .ok [("status", v)]
  | .setCommander v => .ok [("commander_user_id", if v.truthy then v else .null)]
  | .setPage v => .ok [("page", v)]
  | .activateColumn v => (column v).map fun c =>
    let change := q.nextSort c
    (change.sort.map fun c => ("sort", Json.text c.word)).toList ++
      [("order", .text change.order.word)]
  | .refresh => .ok []
  | .unknown v => .error (.foreign (.unknownAction v))

/-- The values of the record of a query. -/
structure Values where
  team : Json
  page : Json
  perPage : Json
  sort : Json
  order : Json
  search : Json
  status : Json
  commander : Json

def Values.fields (r : Values) : Json.Fields :=
  [("team_id", r.team), ("page", r.page), ("per_page", r.perPage), ("sort", r.sort),
    ("order", r.order), ("search_term", r.search), ("status", r.status),
    ("commander_user_id", r.commander)]

def values (q : ListQuery) : Values where
  team := .text q.team
  page := .int q.page
  perPage := .int q.perPage
  sort := .text q.sort.word
  order := .text q.order.word
  search := Json.ofText? q.search
  status := Json.ofText? (q.status.map (·.word))
  commander := Json.ofText? q.commander

/-- A record is read value by value. -/
theorem read_fields (r : Values) :
    read (.object r.fields) =
      (Reading.and (Reading.and (Reading.and (Reading.and (Reading.and (Reading.and (Reading.and
        (Reading.and (.ok ofBounded)
          ((text r.team).within (.name "team_id")))
          ((wholeFrom 0 r.page).within (.name "page")))
          ((wholeFrom 1 r.perPage).within (.name "per_page")))
          ((member SortColumn.members r.sort).within (.name "sort")))
          ((member SortOrder.members r.order).within (.name "order")))
          ((orNull text r.search).within (.name "search_term")))
          ((orNull (member StatusFilter.members) r.status).within (.name "status")))
          ((orNull text r.commander).within (.name "commander_user_id"))).of model := by
  simp [read, object, readFields, Values.fields, required, Field.optional, Json.Fields.get?]

/-! ### What was there before -/

theorem wholeFrom_natCast {bound : Int} {n : Nat} (h : bound ≤ n) :
    wholeFrom bound (.int n) = .ok ⟨n, h⟩ := by
  simp [wholeFrom, whole, h]

theorem orNull_ofText? (s : Option String) : orNull text (Json.ofText? s) = .ok s := by
  cases s <;> rfl

theorem member_sort (c : SortColumn) : member SortColumn.members (.text c.word) = .ok c := by
  cases c <;> rfl

theorem member_order (o : SortOrder) : member SortOrder.members (.text o.word) = .ok o := by
  cases o <;> rfl

theorem orNull_status (s : Option StatusFilter) :
    orNull (member StatusFilter.members) (Json.ofText? (s.map (·.word))) = .ok s := by
  cases s with
  | none => rfl
  | some s => cases s <;> rfl

theorem orNull_of_truthy {α : Type} {read : Reader α} {v : Json} (given : v.truthy = true) :
    orNull read v = (read v).map some := by
  unfold orNull
  split
  · cases given
  · cases read v <;> rfl

/-- What was there before is read as it is. -/
theorem read_values (q : ListQuery) :
    text q.values.team = .ok q.team ∧
      wholeFrom 0 q.values.page = .ok ⟨q.page, Int.natCast_nonneg _⟩ ∧
      wholeFrom 1 q.values.perPage = .ok ⟨q.perPage, Int.ofNat_le.2 q.perPage_pos⟩ ∧
      member SortColumn.members q.values.sort = .ok q.sort ∧
      member SortOrder.members q.values.order = .ok q.order ∧
      orNull text q.values.search = .ok q.search ∧
      orNull (member StatusFilter.members) q.values.status = .ok q.status ∧
      orNull text q.values.commander = .ok q.commander :=
  ⟨rfl, wholeFrom_natCast _, wholeFrom_natCast _, member_sort _, member_order _,
    orNull_ofText? _, orNull_status _, orNull_ofText? _⟩

/-- A value of a filter text is the text, or none if it counts as not given. -/
theorem filterText_eq (name : String) (v : Json) :
    filterText name v =
      Failure.ofRejection (((orNull text (if v.truthy then v else .null)).within (.name name)).of
        model) := by
  unfold filterText field
  split
  · rename_i given
    rw [orNull_of_truthy given]
    cases text v <;> rfl
  · rfl

/-- The query after an action, as the whole record is read with the new values in it: of what was
there before nothing is refused. -/
theorem update_eq_read (q : ListQuery) (a : Action) :
    q.update a = (q.written a).bind fun new =>
      Failure.ofRejection (read (.object (q.toFields.merge new))) := by
  cases a with
  | setTeam v =>
    have merged : q.toFields.merge [("team_id", v)] = { q.values with team := v }.fields := rfl
    simp only [update, written, Except.bind, merged, read_fields, read_values, field]
    cases text v <;>
      simp [Reading.and, Reading.within, Reading.of, Failure.ofRejection, Except.map, ofBounded]
  | setSearch v =>
    have merged (w : Json) :
        q.toFields.merge [("search_term", w)] = { q.values with search := w }.fields := rfl
    simp only [update, written, Except.bind, merged, read_fields, read_values, filterText_eq]
    cases orNull text (if v.truthy then v else .null) <;>
      simp [Reading.and, Reading.within, Reading.of, Failure.ofRejection, Except.map, ofBounded]
  | setStatus v =>
    have merged : q.toFields.merge [("status", v)] = { q.values with status := v }.fields := rfl
    simp only [update, written, Except.bind, merged, read_fields, read_values, field]
    cases orNull (member StatusFilter.members) v <;>
      simp [Reading.and, Reading.within, Reading.of, Failure.ofRejection, Except.map, ofBounded]
  | setCommander v =>
    have merged (w : Json) :
        q.toFields.merge [("commander_user_id", w)] = { q.values with commander := w }.fields := rfl
    simp only [update, written, Except.bind, merged, read_fields, read_values, filterText_eq]
    cases orNull text (if v.truthy then v else .null) <;>
      simp [Reading.and, Reading.within, Reading.of, Failure.ofRejection, Except.map, ofBounded]
  | setPage v =>
    have merged : q.toFields.merge [("page", v)] = { q.values with page := v }.fields := rfl
    simp only [update, written, Except.bind, merged, read_fields, read_values, field]
    cases wholeFrom 0 v <;>
      simp [Reading.and, Reading.within, Reading.of, Failure.ofRejection, Except.map, ofBounded]
  | activateColumn v =>
    simp only [update, written]
    cases column v with
    | error f => rfl
    | ok c =>
      have turned (w : Json) :
          q.toFields.merge [("order", w)] = { q.values with order := w }.fields := rfl
      have sorted (w x : Json) : q.toFields.merge [("sort", w), ("order", x)] =
          { q.values with sort := w, order := x }.fields := rfl
      by_cases same : q.sort = c
      · simp only [Except.map, Except.bind, activate, nextSort, same, if_true, Option.map_none,
          Option.toList_none, List.nil_append, turned, read_fields, read_values, member_order]
        simp [Reading.and, Reading.within, Reading.of, Failure.ofRejection, ofBounded]
      · simp only [Except.map, Except.bind, activate, nextSort, same, if_false, Option.map_some,
          Option.toList_some, List.singleton_append, sorted, read_fields, read_values, member_sort,
          member_order]
        simp [Reading.and, Reading.within, Reading.of, Failure.ofRejection, ofBounded]
  | refresh =>
    have merged : q.toFields.merge [] = q.values.fields := rfl
    simp only [update, written, Except.bind, merged, read_fields, read_values]
    simp [Reading.and, Reading.within, Reading.of, Failure.ofRejection, ofBounded]
  | unknown v => rfl

end ListQuery

end IncidentBoard
