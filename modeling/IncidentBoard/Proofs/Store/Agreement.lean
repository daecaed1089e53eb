import IncidentBoard.Proofs.Answer.Filters
import IncidentBoard.Proofs.Answer.Order
import IncidentBoard.Proofs.Lists
import IncidentBoard.Proofs.Store.Rows
import IncidentBoard.Provider.Scenario

/-!
# The store answers like a list

A store of typed rows answers a query as the list of its live incidents does: the same filters, the
same order, the same page. Times are compared in milliseconds and handed over in seconds. The
commanders of a team are the same too.

## Main definitions

* `RunRow.live` — the incidents of the rows that are not deleted.
* `ListQuery.FitsStore` — the queries whose search term and numbers the store takes.
* `Store.answers_like_list` — the agreement.
-/

namespace IncidentBoard

/-- The incidents of the rows that are not deleted, with their times in milliseconds. -/
def RunRow.live (rows : List RunRow) : List Incident := (rows.filter isLive).map inMillis

/-- A page with its times in seconds in place of milliseconds. -/
def IncidentsPage.inSeconds (p : IncidentsPage) : IncidentsPage :=
  { p with items := p.items.map Incident.inSeconds }

/-- A query with a plain search term that is not too long for a pattern, and with numbers that fit
the store. -/
structure ListQuery.FitsStore (q : ListQuery) : Prop where
  plain : ∀ t, q.search = some t → Text.Plain t
  short : ∀ t, q.search = some t →
    (String.ofList (Store.pattern t)).utf8ByteSize ≤ Store.patternLimit
  perPage : (q.perPage : Int) < Cell.intBound
  offset : ((q.page * q.perPage : Nat) : Int) < Cell.intBound

namespace Store

variable {q : ListQuery} {a b r : RunRow} {rows : List RunRow}

/-! ## Filters -/

/-- Searching by a pattern is searching in lower case. -/
theorem matchesSearch_eq (hr : r.WellTyped) (fits : q.FitsStore) :
    matchesSearch q r = ListQuery.searchAllows q.search r.inMillis.name := by
  unfold matchesSearch ListQuery.searchAllows
  cases ht : ListQuery.given? q.search with
  | none => rfl
  | some t =>
    have term := fits.plain t (ListQuery.given?_eq_some.1 ht).1
    have occurs := Like.isMatch_of_isAscii term hr.plain
    simp only [pattern, term.lowercase, RunRow.inMillis, hr.plain.lowercase]
    rw [hr.name, Bool.eq_iff_iff, textOccursIn, occursIn_iff]
    simpa only [nameCodes, lower, Cell.textValue_text, String.toList_ofList] using occurs

theorem beq_text {c : Cell} (hc : c.IsText) (s : String) :
    (c == .text s) = (c.textValue == s) := by
  rw [hc, Bool.eq_iff_iff, beq_iff_eq, beq_iff_eq, Cell.text.injEq]
  rfl

theorem passes_eq (hr : r.WellTyped) :
    passes q r = (r.inMillis.team == q.team && r.isLive &&
      ListQuery.statusAllows q.status r.inMillis.isActive &&
      ListQuery.commanderAllows q.commander r.inMillis.commander) := by
  unfold passes ListQuery.commanderAllows
  congr 1
  · congr 1
    · rw [beq_text hr.team]
      rfl
    · rcases hr.isActive with active | active <;>
        rcases q.status with _ | _ | _ | _ <;>
        simp [RunRow.inMillis, active, ListQuery.statusAllows]
  · cases ListQuery.given? q.commander with
    | none => rfl
    | some id => exact beq_text hr.commander id

theorem selects_eq (hr : r.WellTyped) (fits : q.FitsStore) :
    selects q r = (r.isLive && q.selects r.inMillis) := by
  rw [selects, matchesSearch_eq hr fits, passes_eq hr, ListQuery.selects]
  ac_rfl

/-- The rows that a query asks for are the live ones whose incidents it asks for. -/
theorem map_filter_selects (typed : ∀ r ∈ rows, r.WellTyped) (fits : q.FitsStore) :
    (rows.filter (selects q)).map RunRow.inMillis = (RunRow.live rows).filter q.selects := by
  rw [RunRow.live, List.filter_map, List.filter_filter]
  refine congrArg _ (List.filter_congr fun r hr => ?_)
  rw [selects_eq (typed r hr) fits, Bool.and_comm]
  rfl

/-! ## Order -/

theorem compareBy_eq (ha : a.WellTyped) (hb : b.WellTyped) (c : SortColumn) :
    compareBy c a b = ListQuery.compareBy c a.inMillis b.inMillis := by
  cases c with
  | name =>
    simp only [compareBy, ListQuery.compareBy, RunRow.inMillis, ha.plain.lowercase,
      hb.plain.lowercase]
    rw [ha.name, hb.name]
    rfl
  | status =>
    simp only [compareBy, ListQuery.compareBy, RunRow.inMillis]
    rcases ha.isActive with h | h <;> rcases hb.isActive with h' | h' <;> rw [h, h'] <;> rfl
  | createdAt =>
    simp only [compareBy, ListQuery.compareBy, RunRow.inMillis]
    rw [ha.createAt, hb.createAt]
    rfl
  | endedAt =>
    simp only [compareBy, ListQuery.compareBy, RunRow.inMillis]
    rw [ha.endAt, hb.endAt]
    rfl

theorem compareIn_eq (ha : a.WellTyped) (hb : b.WellTyped) :
    compareIn q a b = q.compareIn a.inMillis b.inMillis := by
  have ids : a.id.compare b.id = compare a.inMillis.id b.inMillis.id := by
    rw [ha.id, hb.id]
    rfl
  rw [compareIn, ListQuery.compareIn, compareBy_eq ha hb, ids]

/-- The rows found stand for the incidents that a list finds. -/
theorem map_matching (typed : ∀ r ∈ rows, r.WellTyped) (distinct : (rows.map RunRow.id).Nodup)
    (fits : q.FitsStore) :
    (matching q rows).map RunRow.inMillis = q.matching (RunRow.live rows) := by
  have ids : ((RunRow.live rows).map Incident.id).Nodup := by
    rw [RunRow.live, List.map_map]
    refine List.Nodup.map_on ?_ ((distinct.of_map _).filter _)
    intro a ha b hb same
    have ta := typed a (List.mem_of_mem_filter ha)
    have tb := typed b (List.mem_of_mem_filter hb)
    refine List.inj_on_of_nodup_map distinct (List.mem_of_mem_filter ha)
      (List.mem_of_mem_filter hb) ?_
    rw [ta.id, tb.id]
    exact congrArg Cell.text same
  rw [ListQuery.matching_eq_mergeSort q ids, ← map_filter_selects typed fits, matching]
  refine List.map_mergeSort fun a ha b hb => ?_
  rw [compareIn_eq (typed a (List.mem_of_mem_filter ha)) (typed b (List.mem_of_mem_filter hb))]

/-! ## Pages -/

theorem map_slice {α β : Type} (f : α → β) (page perPage : Nat) (xs : List α) :
    (ListQuery.slice page perPage xs).map f = ListQuery.slice page perPage (xs.map f) := by
  simp [ListQuery.slice]

theorem tooComplex_of_fits (fits : q.FitsStore) : tooComplex q rows = false := by
  unfold tooComplex
  cases ht : ListQuery.given? q.search with
  | none => rfl
  | some t =>
    have short := fits.short t (ListQuery.given?_eq_some.1 ht).1
    simp [Nat.not_lt.2 short]

theorem fitsInt_of_lt {n : Nat} (h : (n : Int) < Cell.intBound) : Cell.fitsInt n = true := by
  have low : -Cell.intBound ≤ (n : Int) := by
    unfold Cell.intBound
    omega
  simp [Cell.fitsInt, low, h]

/-- A store of typed rows answers a query as the list of its incidents does. -/
theorem page_eq {s : Store} (hs : s.runs = some rows) (typed : ∀ r ∈ rows, r.WellTyped)
    (distinct : (rows.map RunRow.id).Nodup) (fits : q.FitsStore) :
    s.page q = .ok (q.answer (RunRow.live rows)).inSeconds := by
  let found := matching q rows
  have listed : found.map RunRow.inMillis = q.matching (RunRow.live rows) :=
    map_matching typed distinct fits
  have read : (ListQuery.slice q.page q.perPage found).mapM RunRow.toIncident =
      .ok ((ListQuery.slice q.page q.perPage found).map fun r => r.inMillis.inSeconds) := by
    refine mapM_eq_map fun r hr => (typed r ?_).toIncident_eq
    have member : r ∈ found := List.mem_of_mem_drop (List.mem_of_mem_take hr)
    exact List.mem_of_mem_filter ((List.mergeSort_perm _ _).subset member)
  have result : s.page q = (ListQuery.slice q.page q.perPage found).mapM RunRow.toIncident >>=
      fun items => pure ⟨items, found.length⟩ := by
    simp only [page, hs, rowsOf, fitsInt_of_lt fits.perPage, fitsInt_of_lt fits.offset,
      tooComplex_of_fits fits]
    rfl
  rw [result, read, ListQuery.answer, ← listed, IncidentsPage.inSeconds, ← map_slice, List.map_map,
    List.length_map]
  rfl

/-! ## Commanders -/

theorem mem_distinct {cells : List Cell} {c : Cell} : c ∈ distinct cells ↔ c ∈ cells := by
  rw [distinct, List.mem_mergeSort, mem_foldl_distinct]
  simp

/-- A store of typed rows names the commanders that the list of its incidents names. -/
theorem commanders_eq {s : Store} (hs : s.runs = some rows) (typed : ∀ r ∈ rows, r.WellTyped)
    (team : String) :
    ∃ cs, s.commanders team = .ok cs ∧
      ∀ m : Scenario.Incidents, m.incidents = RunRow.live rows →
        ∀ c, c ∈ cs ↔ c ∈ m.commandersOf team := by
  let chosen := rows.filter fun r => r.team == .text team && r.isLive
  have typedCells : ∀ c ∈ distinct (chosen.map RunRow.commander), c.IsText := by
    intro c hc
    obtain ⟨r, hr, rfl⟩ := List.mem_map.1 (mem_distinct.1 hc)
    exact (typed r (List.mem_of_mem_filter hr)).commander
  have read : (distinct (chosen.map RunRow.commander)).mapM (fun c =>
      Failure.ofRejection (Commander.read (.object [("user_id", c.toJson)]))) =
      .ok ((distinct (chosen.map RunRow.commander)).map fun c => .ofId c.textValue) := by
    refine mapM_eq_map fun c hc => ?_
    rw [typedCells c hc]
    rfl
  refine ⟨(distinct (chosen.map RunRow.commander)).map fun c => .ofId c.textValue, ?_, ?_⟩
  · simp only [commanders, hs, rowsOf]
    exact read
  · intro m hm c
    have ids : (chosen.map RunRow.commander).map Cell.textValue =
        (m.incidents.filter (·.team == team)).map Incident.commander := by
      rw [hm, RunRow.live, List.filter_map, List.filter_filter, List.map_map, List.map_map]
      refine congrArg _ (List.filter_congr fun r hr => ?_)
      rw [beq_text (typed r hr).team]
      rfl
    have named : c ∈ m.commandersOf team ↔
        ∃ id ∈ (chosen.map RunRow.commander).map Cell.textValue, .ofId id = c := by
      rw [Scenario.Incidents.commandersOf, List.mem_map, ids]
      simp only [mem_foldl_distinct, List.not_mem_nil, false_or]
    simp only [named, List.mem_map, mem_distinct, exists_exists_and_eq_and]

/-- A store of typed rows with ids of their own answers as the list of its live incidents does,
whatever the order of the rows: every query that it takes gives the same page, up to the unit of
times, and every team has the same commanders. -/
theorem answers_like_list {s : Store} (hs : s.runs = some rows)
    (typed : ∀ r ∈ rows, r.WellTyped) (distinct : (rows.map RunRow.id).Nodup) :
    (∀ q : ListQuery, q.FitsStore → s.page q = .ok (q.answer (RunRow.live rows)).inSeconds) ∧
      ∀ team, ∃ cs, s.commanders team = .ok cs ∧
        ∀ m : Scenario.Incidents, m.incidents = RunRow.live rows →
          ∀ c, c ∈ cs ↔ c ∈ m.commandersOf team :=
  ⟨fun _ fits => page_eq hs typed distinct fits, fun team => commanders_eq hs typed team⟩

/-- A search for special characters over two names that differ in case, beside a deleted row. -/
theorem answers_like_list_of_special_characters :
    let row (id name : String) (created deleted : Int) : RunRow :=
      ⟨.text id, .text name, .text "", .int 1, .text "u", .text "t", .text "", .int created, .int 0,
        .int deleted, .int 0, .text "", .text ""⟩
    let rows := [row "b" "100%_Done" 1999 0, row "a" "100%_done" 1500 0, row "c" "100%_DONE" 7 1]
    let q : ListQuery := { ListQuery.first "t" 15 (by decide) with
      sort := .name, search := some "0%_D" }
    let s : Store := ⟨some rows, some [], some []⟩
    s.page q = .ok (q.answer (RunRow.live rows)).inSeconds ∧
      ((RunRow.live rows).filter q.selects).map (·.id) = ["b", "a"] := by
  intro row rows q s
  have typed : ∀ r ∈ rows, r.WellTyped := by
    have each (id name : String) (created deleted : Int) (plain : Text.Plain name) :
        (row id name created deleted).WellTyped :=
      ⟨rfl, rfl, plain, rfl, .inr rfl, rfl, rfl, rfl, rfl, rfl, rfl⟩
    simp only [rows, List.forall_mem_cons]
    refine ⟨each _ _ _ _ ?_, each _ _ _ _ ?_, each _ _ _ _ ?_, List.forall_mem_nil _⟩ <;> decide
  have fits : q.FitsStore := by
    refine ⟨?_, ?_, by decide, by decide⟩
    · rintro t ⟨⟩
      decide
    · rintro t ⟨⟩
      decide
  exact ⟨(answers_like_list rfl typed (by decide)).1 q fits, by decide⟩

end Store

end IncidentBoard
