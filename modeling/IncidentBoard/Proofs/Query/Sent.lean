import IncidentBoard.ListQuery.Answer
import IncidentBoard.Proofs.Json.RoundTrip

/-!
# Queries as they are sent

A query is sent as names and texts, without filters that are not set. Read back from these, it is
the query with every filter that filters nothing taken away, and it has the same answer.

## Main definitions

* `ListQuery.settled` — a query without filters that filter nothing.
* `ListQuery.answer_settled` — it has the same answer.
* `ListQuery.fieldsWith`, `ListQuery.read_fieldsWith` — the fields of a query, however its numbers
  are written, are read as the query without the filters that filter nothing.
* `ListQuery.ofSent`, `ListQuery.ofSent_sent` — a query read from names and texts.
-/

namespace IncidentBoard

namespace ListQuery

/-- A query without the filters that filter nothing. -/
def settled (q : ListQuery) : ListQuery :=
  { q with
    search := given? q.search
    status := restriction? q.status
    commander := given? q.commander }

theorem given?_given? (s : Option String) : given? (given? s) = given? s := by
  simp [given?]

theorem statusAllows_restriction? (s : Option StatusFilter) (isActive : Bool) :
    statusAllows (restriction? s) isActive = statusAllows s isActive := by
  rcases s with _ | _ | _ | _ <;> rfl

/-- A query without the filters that filter nothing asks for the same incidents. -/
theorem selects_settled (q : ListQuery) (x : Incident) : q.settled.selects x = q.selects x := by
  simp only [selects, settled, searchAllows, commanderAllows, given?_given?,
    statusAllows_restriction?]

theorem answer_settled (q : ListQuery) (xs : List Incident) :
    q.settled.answer xs = q.answer xs := by
  have same : q.settled.matching xs = q.matching xs := by
    have selected : q.settled.selects = q.selects := funext q.selects_settled
    rw [matching, selected]
    rfl
  simp only [answer, same]
  rfl

/-! ## Names and texts -/

/-- The query that names and texts stand for. -/
def ofSent (pairs : List (String × String)) : Except Field.Rejection ListQuery :=
  read (.object (Json.Fields.ofPairs (pairs.map fun (k, v) => (k, .text v))))

/-- The names and texts that are sent for a query. -/
def sent (q : ListQuery) : List (String × String) := q.pairs.map fun (k, v) => (k, v.plain)

/-- A field for a filter, if it is set. -/
def filterField (name : String) (value : Option String) : Json.Fields :=
  (value.map fun s => (name, Json.text s)).toList

/-- The fields of a query without filters that filter nothing, its numbers written in some way. -/
def fieldsWith (q : ListQuery) (page perPage : Json) : Json.Fields :=
  [("team_id", .text q.team), ("page", page), ("per_page", perPage), ("sort", .text q.sort.word),
    ("order", .text q.order.word)] ++ filterField "search_term" (given? q.search) ++
    filterField "status" ((restriction? q.status).map StatusFilter.word) ++
    filterField "commander_user_id" (given? q.commander)

/-- The fields that are sent for a query. -/
def sentFields (q : ListQuery) : Json.Fields :=
  q.fieldsWith (.text (toString q.page)) (.text (toString q.perPage))

theorem ofPairs_sent (q : ListQuery) :
    Json.Fields.ofPairs (q.sent.map fun (k, v) => (k, .text v)) = q.sentFields := by
  have fields : (q.sent.map fun (k, v) => (k, Json.text v)) = q.sentFields := by
    have page : ((q.page : Int)).repr = q.page.repr := by simp [Int.repr_eq_if]
    have perPage : ((q.perPage : Int)).repr = q.perPage.repr := by simp [Int.repr_eq_if]
    cases search : given? q.search <;> cases status : restriction? q.status <;>
      cases commander : given? q.commander <;>
      simp [sent, pairs, sentFields, fieldsWith, filterField, Json.plain, Json.literal, page,
        perPage, search, status, commander]
  have names : (q.sentFields.map Prod.fst).Nodup := by
    cases search : given? q.search <;> cases status : restriction? q.status <;>
      cases commander : given? q.commander <;>
      simp [sentFields, fieldsWith, filterField, search, status, commander]
  rw [fields]
  exact Json.ofPairs_of_nodup names

theorem get?_filterField (name other : String) (value : Option String) :
    (filterField name value).get? other = if name = other then value.map .text else none := by
  cases value <;> simp [filterField, Json.Fields.get?]

/-- What stands under each name. -/
theorem get?_fieldsWith (q : ListQuery) (page perPage : Json) :
    let get := (q.fieldsWith page perPage).get?
    get "team_id" = some (.text q.team) ∧ get "page" = some page ∧ get "per_page" = some perPage ∧
      get "sort" = some (.text q.sort.word) ∧ get "order" = some (.text q.order.word) ∧
      get "search_term" = (given? q.search).map .text ∧
      get "status" = ((restriction? q.status).map StatusFilter.word).map .text ∧
      get "commander_user_id" = (given? q.commander).map .text := by
  simp [fieldsWith, Json.Fields.get?_append, get?_filterField, Json.Fields.get?]

/-! ## Reading -/

/-- The text of a whole number is read with the bounds of its field. -/
theorem wholeFrom_toString {n : Nat} (short : Json.Short n) {bound : Int} (h : bound ≤ n) :
    Field.wholeFrom bound (.text (toString n)) = .ok ⟨n, h⟩ := by
  simp only [Field.wholeFrom, Field.whole, Field.wholeOfText_toString short, h, dif_pos]

/-- A field that is sent is read. -/
theorem optional_sent {α : Type} {fs : Json.Fields} {name : String} {absent x : α}
    {read : Field.Reader α} {v : Json} (sent : fs.get? name = some v) (reads : read v = .ok x) :
    Field.optional fs name absent read = .ok x := by
  rw [Field.optional, sent]
  simp only [reads]
  rfl

/-- A filter that is sent is read, and one that is not is not set. -/
theorem optional_filter {α : Type} {fs : Json.Fields} {name : String} {value : Option α}
    (word : α → String) {read : Field.Reader α} (reads : ∀ a, read (.text (word a)) = .ok a)
    (sent : fs.get? name = (value.map word).map .text) :
    Field.optional fs name none (Field.orNull read) = .ok value := by
  cases value with
  | none => rw [Field.optional, sent]; rfl
  | some a => exact optional_sent sent (by simp only [Field.orNull, reads])

/-- The fields of a query are read as the query without the filters that filter nothing, if its
numbers are read as they are. -/
theorem read_fieldsWith {q : ListQuery} {page perPage : Json}
    (readsPage : Field.wholeFrom 0 page = .ok ⟨q.page, Int.natCast_nonneg _⟩)
    (readsPerPage : Field.wholeFrom 1 perPage = .ok ⟨q.perPage, Int.ofNat_le.2 q.perPage_pos⟩) :
    read (.object (q.fieldsWith page perPage)) = .ok q.settled := by
  obtain ⟨team, pageGiven, perPageGiven, sort, order, search, status, commander⟩ :=
    q.get?_fieldsWith page perPage
  let fs := q.fieldsWith page perPage
  have readTeam : Field.required fs "team_id" Field.text = .ok q.team := by
    rw [Field.required, team]
    rfl
  have readPage : Field.optional fs "page" ⟨0, by decide⟩ (Field.wholeFrom 0) =
      .ok ⟨q.page, Int.natCast_nonneg _⟩ := optional_sent pageGiven readsPage
  have readPerPage : Field.optional fs "per_page" ⟨15, by decide⟩ (Field.wholeFrom 1) =
      .ok ⟨q.perPage, Int.ofNat_le.2 q.perPage_pos⟩ := optional_sent perPageGiven readsPerPage
  have readSort : Field.optional fs "sort" .createdAt (Field.member SortColumn.members) =
      .ok q.sort := optional_sent sort (by cases q.sort <;> rfl)
  have readOrder : Field.optional fs "order" .descending (Field.member SortOrder.members) =
      .ok q.order := optional_sent order (by cases q.order <;> rfl)
  have readSearch : Field.optional fs "search_term" none (Field.orNull Field.text) =
      .ok (given? q.search) :=
    optional_filter id (fun _ => rfl) (by rw [search, Option.map_id]; rfl)
  have readStatus : Field.optional fs "status" none
      (Field.orNull (Field.member StatusFilter.members)) = .ok (restriction? q.status) :=
    optional_filter StatusFilter.word (fun s => by cases s <;> rfl) status
  have readCommander : Field.optional fs "commander_user_id" none (Field.orNull Field.text) =
      .ok (given? q.commander) :=
    optional_filter id (fun _ => rfl) (by rw [commander, Option.map_id]; rfl)
  rw [read, Field.object, readFields, readTeam, readPage, readPerPage, readSort, readOrder,
    readSearch, readStatus, readCommander]
  simp only [Field.Reading.and_ok, Field.Reading.of]
  simp only [ofBounded, Int.toNat_natCast, settled]

/-- The names and texts sent for a query are read as the query without the filters that filter
nothing. -/
theorem ofSent_sent {q : ListQuery} (page : Json.Short q.page) (perPage : Json.Short q.perPage) :
    ofSent q.sent = .ok q.settled := by
  rw [ofSent, ofPairs_sent]
  exact read_fieldsWith (wholeFrom_toString page _) (wholeFrom_toString perPage _)

end ListQuery

end IncidentBoard
