import IncidentBoard.Proofs.Answer.Tiling
import IncidentBoard.Proofs.Store.Agreement
import IncidentBoard.Proofs.Store.ReadBack

/-!
# Four reads of one set

The list of a team, its commanders, the summary of an incident and its details are read by a query
of their own each. On rows with ids of their own the four tell of one set of incidents, and rows
that are deleted have no part in it. What the rows are asked for by has to be kept as text, for
octets are shown as the text that they are in UTF-8 but are not found by it.

## Main definitions

* `RunRow.Keyed`, `RunRow.incident` — rows with texts as their keys, and what they are read as.
* `RunRow.Typed` — rows that are ordered as the values in their cells are.
* `ListQuery.InRange` — the queries whose numbers the store takes.
* `Store.Lists` — what it means for the pages of a query to be a list cut into pages.
* `Store.eq_matching` — the order of a query leaves no choice.
* `Store.ReadsAlike` — stores that give the same answers.
* `Store.OneSet` — what it means for the reads of a store to tell of one set.
* `Store.reads_one_set` — they do.
-/

namespace IncidentBoard

/-! ## Rows -/

namespace RunRow

/-- Rows with times as whole numbers whose texts can be read; those of the incident, the team and
the commander are kept as text, the others may be octets. -/
structure Keyed (r : RunRow) : Prop where
  id : r.id.IsText
  name : r.name.Spells r.name.textValue
  description : r.description.Spells r.description.textValue
  isActive : r.isActive ≠ .null
  commander : r.commander.IsText
  team : r.team.IsText
  channel : r.channel.Spells r.channel.textValue
  createAt : r.createAt.IsInt
  endAt : r.endAt.IsInt
  deleteAt : r.deleteAt.IsInt

/-- Rows whose name is kept as text, too, and whose truth value is a whole number. -/
structure Typed (r : RunRow) : Prop extends r.Keyed where
  named : r.name.IsText
  active : r.isActive.IsInt

/-- The incident of a row, with its times in seconds; what is neither zero nor empty is true. -/
def incident (r : RunRow) : Incident :=
  { id := r.id.textValue, name := r.name.textValue, description := r.description.textValue,
    isActive := r.isActive.toJson.truthy, createdAt := r.createAt.intValue.fdiv millis,
    endedAt := r.endAt.intValue.fdiv millis, commander := r.commander.textValue,
    team := r.team.textValue, channel := r.channel.textValue }

variable {r : RunRow}

theorem Keyed.readAs (h : r.Keyed) : r.ReadAs r.incident :=
  ⟨h.id.spells, h.name, h.description, ⟨h.isActive, rfl⟩, h.createAt.tells, h.endAt.tells,
    h.commander.spells, h.team.spells, h.channel⟩

theorem Keyed.isLive_iff (h : r.Keyed) : r.isLive = true ↔ r.deleteAt = .int 0 := by
  unfold isLive
  rw [h.deleteAt]
  simp [Cell.compare]

end RunRow

/-! ## Queries -/

namespace ListQuery

/-- The size and the offset of a page are numbers that the store takes. -/
structure InRange (q : ListQuery) : Prop where
  perPage : Cell.fitsInt q.perPage = true
  offset : Cell.fitsInt (q.page * q.perPage : Nat) = true

variable {q : ListQuery}

theorem given?_eq_none_of_unfiltered (h : q.isFiltering = false) :
    given? q.search = none ∧ given? q.commander = none ∧ restriction? q.status = none := by
  simpa [isFiltering, and_assoc] using h

end ListQuery

namespace Store

variable {s : Store} {q : ListQuery} {rows : List RunRow} {posts : List PostRow}
  {links : List LinkRow} {r : RunRow} {id : String}

theorem mem_matching : r ∈ matching q rows ↔ r ∈ rows ∧ selects q r = true := by
  simp [matching]

/-- A query without filters asks for the rows of its team that are not deleted. -/
theorem selects_of_unfiltered (h : q.isFiltering = false) :
    selects q r = (r.team == .text q.team && r.isLive) := by
  obtain ⟨search, commander, status⟩ := ListQuery.given?_eq_none_of_unfiltered h
  rcases all : q.status with _ | _ | _ | _
  case none | some.all => simp [selects, passes, matchesSearch, search, commander, all]
  case some.active | some.ended => simp [ListQuery.restriction?, all] at status

theorem tooComplex_of_unfiltered (h : q.isFiltering = false) : tooComplex q rows = false := by
  rw [tooComplex, (ListQuery.given?_eq_none_of_unfiltered h).1]

/-- The page of a query: a slice of the rows found, read one by one, unless a number does not fit or
the pattern is too long. -/
theorem page_of_table (table : s.runs = some rows) :
    s.page q =
      if !Cell.fitsInt q.perPage || !Cell.fitsInt (q.page * q.perPage : Nat) then
        .error (.foreign .integerTooLarge)
      else if tooComplex q rows then .error (queryFailed "LIKE or GLOB pattern too complex")
      else (ListQuery.slice q.page q.perPage (matching q rows)).mapM RunRow.toIncident >>=
        fun items => pure ⟨items, (matching q rows).length⟩ := by
  -- the tests are split before the steps are joined, for else they are computed
  cases sized : Cell.fitsInt q.perPage <;>
    cases placed : Cell.fitsInt (q.page * q.perPage : Nat) <;>
    cases complex : tooComplex q rows <;>
    simp only [page, table, rowsOf, sized, placed, bind, Except.bind, complex] <;>
    rfl

/-- A page that the store takes is a slice of the rows found, read one by one. -/
theorem page_eq_mapM (table : s.runs = some rows) (range : q.InRange)
    (simple : tooComplex q rows = false) :
    s.page q = (ListQuery.slice q.page q.perPage (matching q rows)).mapM RunRow.toIncident >>=
      fun items => pure ⟨items, (matching q rows).length⟩ := by
  rw [page_of_table table, range.perPage, range.offset, simple]
  rfl

/-- The first page of a query that finds just one row. -/
theorem page_of_single {x : Incident} (table : s.runs = some rows) (range : q.InRange)
    (simple : tooComplex q rows = false) (first : q.page = 0) (found : matching q rows = [r])
    (reads : r.ReadAs x) : s.page q = .ok ⟨[x], 1⟩ := by
  have shown : ListQuery.slice q.page q.perPage [r] = [r] := by
    rw [ListQuery.slice, first, Nat.zero_mul, List.drop_zero]
    exact List.take_of_length_le q.perPage_pos
  rw [page_eq_mapM table range simple, found, shown, List.mapM_cons,
    RunRow.toIncident_eq_ok_iff.2 reads]
  rfl

/-! ## Lists -/

/-- The page of an index of a list that is cut into pages. -/
def pageOf (perPage : Nat) (xs : List Incident) (k : Nat) : IncidentsPage :=
  ⟨ListQuery.slice k perPage xs, xs.length⟩

/-- The pages of a query are a list of incidents, cut into pages. -/
structure Lists (s : Store) (q : ListQuery) (xs : List Incident) : Prop where
  page : ∀ k, { q with page := k }.InRange →
    s.page { q with page := k } = .ok (pageOf q.perPage xs k)
  /-- Pages that are enough for all of the list are, one after the other, the list. -/
  complete : ∀ n, xs.length ≤ n * q.perPage → (∀ k < n, { q with page := k }.InRange) →
    ∃ pages, (List.range n).mapM (fun k => s.page { q with page := k }) = .ok pages ∧
      pages.flatMap IncidentsPage.items = xs ∧ ∀ p ∈ pages, p.total = xs.length

theorem flatMap_items_pageOf {perPage n : Nat} {xs : List Incident}
    (enough : xs.length ≤ n * perPage) :
    ((List.range n).map (pageOf perPage xs)).flatMap IncidentsPage.items = xs := by
  rw [List.flatMap_map]
  change ((List.range n).flatMap fun k => ListQuery.slice k perPage xs) = xs
  rw [ListQuery.flatMap_slice, List.take_of_length_le enough]

theorem lists_of_keyed (table : s.runs = some rows) (keyed : ∀ r ∈ rows, r.Keyed)
    (simple : tooComplex q rows = false) : s.Lists q ((matching q rows).map RunRow.incident) := by
  let found := matching q rows
  have paged : ∀ k, { q with page := k }.InRange →
      s.page { q with page := k } = .ok (pageOf q.perPage (found.map RunRow.incident) k) := by
    intro k range
    have read : (ListQuery.slice k q.perPage found).mapM RunRow.toIncident =
        .ok ((ListQuery.slice k q.perPage found).map RunRow.incident) := by
      refine mapM_eq_map fun r hr => RunRow.toIncident_eq_ok_iff.2 (keyed r ?_).readAs
      exact (mem_matching.1 (List.mem_of_mem_drop (List.mem_of_mem_take hr))).1
    rw [page_eq_mapM table range simple, pageOf, ← map_slice, List.length_map]
    change (ListQuery.slice k q.perPage found).mapM RunRow.toIncident >>= _ = _
    rw [read]
    rfl
  refine ⟨paged, fun n enough range => ?_⟩
  refine ⟨_, mapM_eq_map fun k hk => paged k (range k (List.mem_range.1 hk)),
    flatMap_items_pageOf enough, fun p member => ?_⟩
  obtain ⟨k, -, rfl⟩ := List.mem_map.1 member
  rfl

/-! ## The order of the rows -/

/-- The order of typed rows in a column. -/
def keyOrder : SortColumn → RunRow → RunRow → Ordering
  | .name => compareOn fun r => lower r.name.textValue
  | .status => compareOn fun r => r.isActive.intValue
  | .createdAt => compareOn fun r => r.createAt.intValue
  | .endedAt => compareOn fun r => r.endAt.intValue

instance (column : SortColumn) : Std.TransCmp (keyOrder column) := by
  cases column <;> unfold keyOrder <;> infer_instance

/-- The order of typed rows in the answer to a query. -/
def rowOrder (q : ListQuery) : RunRow → RunRow → Ordering :=
  compareLex (fun a b => ListQuery.directed q.order (keyOrder q.sort a b))
    (compareOn fun r => r.id.textValue)

instance (q : ListQuery) : Std.TransCmp (rowOrder q) := by
  have : Std.TransCmp fun a b => ListQuery.directed q.order (keyOrder q.sort a b) := by
    cases q.order with
    | ascending => exact inferInstanceAs (Std.TransCmp (keyOrder q.sort))
    | descending =>
      have swapped : (fun a b => (keyOrder q.sort a b).swap) = fun a b => keyOrder q.sort b a :=
        funext₂ fun a b => Std.OrientedCmp.eq_swap.symm
      simp only [ListQuery.directed, swapped]
      infer_instance
  unfold rowOrder
  infer_instance

theorem compareIn_eq_rowOrder {a b : RunRow} (ha : a.Typed) (hb : b.Typed) :
    compareIn q a b = rowOrder q a b := by
  have key : compareBy q.sort a b = keyOrder q.sort a b := by
    cases q.sort <;> simp only [compareBy, keyOrder]
    case name => rw [ha.named, hb.named]; rfl
    case status => rw [ha.active, hb.active]; rfl
    case createdAt => rw [ha.createAt, hb.createAt]; rfl
    case endedAt => rw [ha.endAt, hb.endAt]; rfl
  have ids : a.id.compare b.id = compare a.id.textValue b.id.textValue := by
    rw [ha.id, hb.id]
    rfl
  rw [compareIn, key, ids]
  rfl

/-- The rows found are in the order of the query. -/
theorem pairwise_matching (typed : ∀ r ∈ rows, r.Typed) :
    (matching q rows).Pairwise fun a b => (compareIn q a b).isLE = true := by
  have chosen : ∀ r ∈ rows.filter (selects q), r.Typed :=
    fun r hr => typed r (List.mem_of_mem_filter hr)
  have same : matching q rows =
      (rows.filter (selects q)).mergeSort fun a b => (rowOrder q a b).isLE := by
    have sorted := @List.map_mergeSort _ _ (fun a b => (compareIn q a b).isLE)
      (fun a b => (rowOrder q a b).isLE) id (rows.filter (selects q))
      fun a ha b hb => by rw [compareIn_eq_rowOrder (chosen a ha) (chosen b hb)]; rfl
    simpa [matching] using sorted
  have sorted : (matching q rows).Pairwise fun a b => (rowOrder q a b).isLE = true := by
    rw [same]
    refine List.pairwise_mergeSort (fun _ _ _ => Std.TransCmp.isLE_trans) (fun a b => ?_) _
    rw [@Std.OrientedCmp.eq_swap _ (rowOrder q) _ b a]
    cases rowOrder q a b <;> rfl
  refine sorted.imp_of_mem fun {a b} ha hb le => ?_
  rw [compareIn_eq_rowOrder (typed a (mem_matching.1 ha).1) (typed b (mem_matching.1 hb).1)]
  exact le

/-- The order leaves no choice: rows that were asked for and are in the order of the query are the
rows found. Pages of one answer fit together even where each is sorted anew. -/
theorem eq_matching (typed : ∀ r ∈ rows, r.Typed) (own : (rows.map RunRow.id).Nodup)
    {found : List RunRow} (asked : found.Perm (rows.filter (selects q)))
    (ordered : found.Pairwise fun a b => (compareIn q a b).isLE = true) :
    found = matching q rows := by
  have perm : found.Perm (matching q rows) := asked.trans (List.mergeSort_perm _ _).symm
  refine List.Perm.eq_of_pairwise ?_ ordered (pairwise_matching typed) perm
  intro a b ha hb le ge
  have ha : a ∈ rows := (mem_matching.1 (perm.subset ha)).1
  have hb : b ∈ rows := (mem_matching.1 hb).1
  rw [compareIn_eq_rowOrder (typed _ ‹_›) (typed _ ‹_›)] at le ge
  have equal : rowOrder q a b = .eq := Std.OrientedCmp.isLE_antisymm le ge
  have ids : compare a.id.textValue b.id.textValue = .eq := (Ordering.then_eq_eq.1 equal).2
  refine List.inj_on_of_nodup_map own ha hb ?_
  rw [(typed a ha).id, (typed b hb).id]
  exact congrArg Cell.text (Std.LawfulEqOrd.eq_of_compare ids)

/-! ## One incident -/

theorem find_ok_iff {key : Cell} (table : s.runs = some rows) (own : (rows.map RunRow.id).Nodup) :
    s.find key = .ok r ↔ r ∈ rows ∧ r.id = key ∧ r.isLive = true := by
  constructor
  · intro found
    simp only [find, table, rowsOf, bind, Except.bind] at found
    split at found
    · rename_i y some
      cases found
      simpa using And.intro (List.mem_of_find?_eq_some some) (List.find?_some some)
    · cases found
  · rintro ⟨member, named, live⟩
    rw [find_eq table own member named, if_pos live]

/-- A summary is the incident of a row that is not deleted. -/
theorem summary_ok_iff {x : Incident} (table : s.runs = some rows) (keyed : ∀ r ∈ rows, r.Keyed)
    (own : (rows.map RunRow.id).Nodup) :
    s.summary id = .ok x ↔ ∃ r ∈ rows, r.id = .text id ∧ r.isLive = true ∧ r.incident = x := by
  constructor
  · intro h
    obtain ⟨r, found, -⟩ := bind_eq_ok_iff.1 h
    obtain ⟨member, named, live⟩ := (find_ok_iff table own).1 found
    rw [summary_eq found (keyed r member).readAs] at h
    exact ⟨r, member, named, live, Except.ok.inj h⟩
  · rintro ⟨r, member, named, live, rfl⟩
    exact summary_eq ((find_ok_iff table own).2 ⟨member, named, live⟩) (keyed r member).readAs

/-- Details are read for the incidents that a summary is read for, and tell the same of them. -/
theorem summary_iff_detail {x : Incident} (tables : s = ⟨some rows, some posts, some links⟩)
    (keyed : ∀ r ∈ rows, r.Keyed) (own : (rows.map RunRow.id).Nodup)
    (linked : ∀ p ∈ posts, IsLinked links id p → p.Legible) :
    s.summary id = .ok x ↔ ∃ d, s.detail id = .ok d ∧ d.incident = x := by
  subst tables
  have legible : ∀ p ∈ postsOf posts links id, p.Legible := fun p hp =>
    linked p (mem_postsOf.1 hp).1 (mem_postsOf.1 hp).2
  cases found : find ⟨some rows, some posts, some links⟩ (.text id) with
  | error e => simp [summary, incidentOf, detail, found, bind, Except.bind]
  | ok r =>
    have reads := (keyed r ((find_ok_iff rfl own).1 found).1).readAs
    rw [summary_eq found reads, detail_eq found reads rfl rfl legible]
    simp [IncidentDetail.ofPosts]

/-! ## Commanders -/

theorem nodup_distinct (cells : List Cell) : (distinct cells).Nodup :=
  (List.mergeSort_perm _ _).nodup_iff.2 (nodup_foldl_distinct cells .nil)

/-- Cells of texts, each once, are in the strict order of their texts. -/
theorem pairwise_distinct {cells : List Cell} (texts : ∀ c ∈ cells, c.IsText) :
    ((distinct cells).map Cell.textValue).Pairwise (· < ·) := by
  have kept : ∀ c ∈ distinct cells, c.IsText := fun c hc => texts c (mem_distinct.1 hc)
  have once : ((distinct cells).map Cell.textValue).Nodup := by
    refine List.Nodup.map_on (fun a ha b hb same => ?_) (nodup_distinct cells)
    rw [kept a ha, kept b hb, same]
  have sorted : ((distinct cells).map Cell.textValue).Pairwise (· ≤ ·) := by
    unfold distinct at kept ⊢
    simp only [List.mem_mergeSort] at kept
    rw [@List.map_mergeSort _ _ _ (fun s t => (compare s t).isLE) _ _ fun a ha b hb => by
      rw [kept a ha, kept b hb]; rfl]
    refine (List.pairwise_mergeSort (fun _ _ _ => Std.TransCmp.isLE_trans) (fun s t => ?_) _).imp
      (compare_text_isLE _ _).1
    simpa only [Bool.or_eq_true, compare_text_isLE] using String.le_total s t
  refine (sorted.and once).imp fun ⟨le, ne⟩ => String.not_le.1 fun ge => ?_
  exact ne (String.le_antisymm le ge)

/-- The commanders of a team: those of its rows that are not deleted, by id, each once. -/
theorem commanders_of_keyed (table : s.runs = some rows) (keyed : ∀ r ∈ rows, r.Keyed)
    (team : String) :
    ∃ cs, s.commanders team = .ok cs ∧ (cs.map Commander.userId).Pairwise (· < ·) ∧
      ∀ c, c ∈ cs ↔ ∃ r ∈ rows, r.team = .text team ∧ r.isLive = true ∧
        .ofId r.incident.commander = c := by
  let chosen := rows.filter fun r => r.team == .text team && r.isLive
  let cells := chosen.map RunRow.commander
  have texts : ∀ c ∈ cells, c.IsText := by
    intro c hc
    obtain ⟨r, hr, rfl⟩ := List.mem_map.1 hc
    exact (keyed r (List.mem_of_mem_filter hr)).commander
  have read : s.commanders team = .ok ((distinct cells).map fun c => .ofId c.textValue) := by
    simp only [commanders, table, rowsOf]
    refine mapM_eq_map fun c hc => ?_
    rw [texts c (mem_distinct.1 hc)]
    rfl
  refine ⟨_, read, ?_, fun c => ?_⟩
  · rw [List.map_map]
    exact pairwise_distinct texts
  · simp [cells, chosen, mem_distinct, RunRow.incident, and_assoc]

/-! ## Deleted rows -/

/-- Two stores give the same answers. -/
structure ReadsAlike (s t : Store) : Prop where
  page : ∀ q, s.page q = t.page q
  commanders : ∀ team, s.commanders team = t.commanders team
  summary : ∀ id, s.summary id = t.summary id
  detail : ∀ id, s.detail id = t.detail id

/-- A test that only live rows pass has the same answers without the others. -/
theorem filter_of_imp_isLive {p : RunRow → Bool} (live : ∀ r, p r = true → r.isLive = true)
    (rows : List RunRow) : (rows.filter RunRow.isLive).filter p = rows.filter p := by
  rw [List.filter_filter]
  refine List.filter_congr fun r _ => ?_
  cases passes : p r with
  | false => rfl
  | true => simp [live r passes]

theorem matching_filter_isLive (q : ListQuery) (rows : List RunRow) :
    matching q (rows.filter RunRow.isLive) = matching q rows := by
  unfold matching
  rw [filter_of_imp_isLive]
  intro r selected
  simp only [selects, passes, Bool.and_eq_true] at selected
  exact selected.1.1.1.2

theorem tooComplex_filter_isLive (q : ListQuery) (rows : List RunRow) :
    tooComplex q (rows.filter RunRow.isLive) = tooComplex q rows := by
  have same : (rows.filter RunRow.isLive).any (fun r => r.team == .text q.team && r.isLive) =
      rows.any fun r => r.team == .text q.team && r.isLive := by
    rw [List.any_filter]
    grind
  unfold tooComplex
  rw [same]

theorem find_filter_isLive (rows : List RunRow) (posts : Option (List PostRow))
    (links : Option (List LinkRow)) (key : Cell) :
    find ⟨some (rows.filter RunRow.isLive), posts, links⟩ key =
      find ⟨some rows, posts, links⟩ key := by
  have same : (rows.filter RunRow.isLive).find? (fun r => r.id == key && r.isLive) =
      rows.find? fun r => r.id == key && r.isLive := by
    rw [← List.head?_filter, ← List.head?_filter, filter_of_imp_isLive (by simp)]
  simp only [find, rowsOf, bind, Except.bind, same]

/-- Rows that are not live have no part in any answer. -/
theorem readsAlike_filter_isLive (rows : List RunRow) (posts : Option (List PostRow))
    (links : Option (List LinkRow)) :
    ReadsAlike ⟨some rows, posts, links⟩ ⟨some (rows.filter RunRow.isLive), posts, links⟩ := by
  refine ⟨fun q => ?_, fun team => ?_, fun id => ?_, fun id => ?_⟩
  · rw [page_of_table rfl, page_of_table rfl, matching_filter_isLive, tooComplex_filter_isLive]
  · simp only [commanders, rowsOf, bind, Except.bind]
    rw [filter_of_imp_isLive (by simp)]
  · rw [summary, summary, incidentOf, incidentOf, find_filter_isLive]
  · rw [detail, detail, find_filter_isLive]

/-- A store without the rows that have a time at which they were deleted. -/
def undeleted (s : Store) : Store :=
  { s with runs := s.runs.map fun rows => rows.filter (·.deleteAt == .int 0) }

/-! ## One set -/

/-- The four reads of a store tell of one set of incidents: those with a summary. -/
structure OneSet (s : Store) : Prop where
  /-- The pages of a team without filters hold each of its incidents once, whatever the size of the
  pages and the order. -/
  lists : ∀ q : ListQuery, q.isFiltering = false →
    ∃ xs, s.Lists q xs ∧ (xs.map Incident.id).Nodup ∧
      ∀ x, x ∈ xs ↔ x.team = q.team ∧ s.summary x.id = .ok x
  /-- Details tell the same as summaries, where the posts that are linked can be read. -/
  details : ∀ id, (∀ p ∈ s.postRows, IsLinked s.linkRows id p → p.Legible) →
    ∀ x, s.summary id = .ok x ↔ ∃ d, s.detail id = .ok d ∧ d.incident = x
  commanders : ∀ team, ∃ cs, s.commanders team = .ok cs ∧
    (cs.map Commander.userId).Pairwise (· < ·) ∧
    ∀ c, c ∈ cs ↔ ∃ x : Incident, x.team = team ∧ s.summary x.id = .ok x ∧ .ofId x.commander = c
  deleted : ReadsAlike s s.undeleted

/-- The incidents of the rows that a query without filters finds are those of its team that have a
summary, each once. -/
theorem matching_of_unfiltered (unfiltered : q.isFiltering = false) (table : s.runs = some rows)
    (keyed : ∀ r ∈ rows, r.Keyed) (own : (rows.map RunRow.id).Nodup) :
    (((matching q rows).map RunRow.incident).map Incident.id).Nodup ∧
      ∀ x, x ∈ (matching q rows).map RunRow.incident ↔
        x.team = q.team ∧ s.summary x.id = .ok x := by
  have asked : ∀ r, r ∈ matching q rows ↔
      r ∈ rows ∧ r.team = .text q.team ∧ r.isLive = true := by
    simp [mem_matching, selects_of_unfiltered unfiltered]
  constructor
  · have once : (matching q rows).Nodup :=
      (List.mergeSort_perm _ _).nodup_iff.2 ((own.of_map _).filter _)
    rw [List.map_map]
    refine once.map_on fun a ha b hb same => ?_
    have ha := ((asked a).1 ha).1
    have hb := ((asked b).1 hb).1
    refine List.inj_on_of_nodup_map own ha hb ?_
    rw [(keyed a ha).id, (keyed b hb).id]
    exact congrArg Cell.text same
  · intro x
    rw [List.mem_map, summary_ok_iff table keyed own]
    constructor
    · rintro ⟨r, found, rfl⟩
      obtain ⟨member, team, live⟩ := (asked r).1 found
      refine ⟨?_, r, member, (keyed r member).id, live, rfl⟩
      simp [RunRow.incident, team]
    · rintro ⟨team, r, member, -, live, rfl⟩
      refine ⟨r, (asked r).2 ⟨member, ?_, live⟩, rfl⟩
      rw [(keyed r member).team]
      exact congrArg Cell.text team

/-- The four reads of a store of rows with ids of their own tell of one set of incidents, where the
keys of the rows are texts and what else is read of them can be read. -/
theorem reads_one_set (keyed : ∀ r ∈ rows, r.Keyed) (own : (rows.map RunRow.id).Nodup) :
    OneSet ⟨some rows, some posts, some links⟩ where
  lists q unfiltered :=
    ⟨_, lists_of_keyed rfl keyed (tooComplex_of_unfiltered unfiltered),
      matching_of_unfiltered unfiltered rfl keyed own⟩
  details id linked x := summary_iff_detail rfl keyed own linked
  commanders team := by
    obtain ⟨cs, read, ordered, members⟩ :=
      commanders_of_keyed (s := ⟨some rows, some posts, some links⟩) rfl keyed team
    refine ⟨cs, read, ordered, fun c => (members c).trans ?_⟩
    simp only [summary_ok_iff (s := ⟨some rows, some posts, some links⟩) rfl keyed own]
    constructor
    · rintro ⟨r, member, named, live, rfl⟩
      refine ⟨r.incident, ?_, ⟨r, member, (keyed r member).id, live, rfl⟩, rfl⟩
      simp [RunRow.incident, named]
    · rintro ⟨x, team, ⟨r, member, -, live, rfl⟩, rfl⟩
      refine ⟨r, member, ?_, live, rfl⟩
      rw [(keyed r member).team]
      exact congrArg Cell.text team
  deleted := by
    have same : rows.filter (·.deleteAt == .int 0) = rows.filter RunRow.isLive := by
      refine List.filter_congr fun r member => ?_
      rw [Bool.eq_iff_iff, beq_iff_eq, (keyed r member).isLive_iff]
    rw [undeleted, Option.map_some, same]
    exact readsAlike_filter_isLive rows (some posts) (some links)

/-- Three runs of a team, one of them with octets as its name, one of another team and a deleted
one, on pages of two: the second page holds the oldest run, and the commander of the deleted run is
not named. -/
theorem reads_one_set_beside_deleted :
    let row (id commander team : String) (name : Cell) (created deleted : Int) : RunRow :=
      ⟨.text id, name, .text "", .int 1, .text commander, .text team, .text "", .int created,
        .int 0, .int deleted, .int 0, .text "", .text ""⟩
    let rows := [row "a" "v" "t" (.bytes [0x6E, 0xC3, 0xA9]) 1000 0,
      row "b" "u" "t" (.text "n") 5000 0, row "c" "w" "t" (.text "n") 9000 7,
      row "d" "v" "t" (.text "n") 5000 0, row "e" "w" "other" (.text "n") 2000 0]
    let s : Store := ⟨some rows, some [⟨.text "p", .int 5⟩], some [⟨.text "a", .text "p"⟩]⟩
    let q := ListQuery.first "t" 2 (by decide)
    s.OneSet ∧ (s.page { q with page := 1 }).map (fun p => (p.items.map Incident.name, p.total)) =
      .ok (["né"], 3) ∧ s.commanders "t" = .ok [.ofId "u", .ofId "v"] := by
  intro row rows s q
  have octets : Octets.text? [0x6E, 0xC3, 0xA9] = some "né" := by decide +kernel
  have spelled : (Cell.bytes [0x6E, 0xC3, 0xA9]).Spells "né" := octets
  have keyed : ∀ r ∈ rows, r.Keyed := by
    have each (id commander team : String) (name : Cell) (created deleted : Int)
        (spelled : name.Spells name.textValue) :
        (row id commander team name created deleted).Keyed :=
      ⟨rfl, spelled, rfl, Cell.noConfusion, rfl, rfl, rfl, rfl, rfl, rfl⟩
    simp only [rows, List.forall_mem_cons]
    refine ⟨each _ _ _ _ _ _ ?_, each _ _ _ _ _ _ rfl, each _ _ _ _ _ _ rfl,
      each _ _ _ _ _ _ rfl, each _ _ _ _ _ _ rfl, List.forall_mem_nil _⟩
    rwa [spelled.textValue_eq]
  have found : matching q rows = [row "b" "u" "t" (.text "n") 5000 0,
      row "d" "v" "t" (.text "n") 5000 0, row "a" "v" "t" (.bytes [0x6E, 0xC3, 0xA9]) 1000 0] := by
    cbv
  have second : s.page { q with page := 1 } =
      .ok (pageOf q.perPage ((matching q rows).map RunRow.incident) 1) :=
    (lists_of_keyed rfl keyed rfl).page 1 ⟨by decide, by decide⟩
  refine ⟨reads_one_set keyed (by decide), ?_, by cbv⟩
  rw [second, found]
  change Except.ok ([(Cell.bytes [0x6E, 0xC3, 0xA9]).textValue], 3) = _
  rw [spelled.textValue_eq]

/-- Reads that differ. A run with octets as its id is listed under the text that they are, which no
summary finds; and no page of a size beyond 64 bits is answered, not even the first. -/
theorem reads_differ_of_octets_and_size :
    let row (id : Cell) : RunRow := ⟨id, .text "n", .text "", .int 1, .text "u", .text "t",
      .text "", .int 1000, .int 0, .int 0, .int 0, .text "", .text ""⟩
    let s (id : Cell) : Store := ⟨some [row id], some [], some []⟩
    let x : Incident := ⟨"ab", "n", "", true, 1, 0, "u", "t", ""⟩
    let octets : Cell := .bytes [0x61, 0x62]
    ((s octets).page (.first "t" 15 (by decide)) = .ok ⟨[x], 1⟩ ∧
      (s octets).summary x.id = .error (.noIncident "incidents" "ab")) ∧
    (s (.text "ab")).summary x.id = .ok x ∧
      (s (.text "ab")).page (.first "t" (2 ^ 63) (Nat.two_pow_pos 63)) =
        .error (.foreign .integerTooLarge) := by
  intro row s x octets
  have decoded : Octets.text? [0x61, 0x62] = some "ab" := by decide +kernel
  have reads : (row octets).ReadAs x :=
    ⟨decoded, rfl, rfl, ⟨Cell.noConfusion, rfl⟩, ⟨_, rfl, rfl⟩, ⟨_, rfl, rfl⟩, rfl, rfl, rfl⟩
  have shown : (s octets).page (.first "t" 15 (by decide)) = .ok ⟨[x], 1⟩ :=
    page_of_single rfl ⟨by decide, by decide⟩ rfl rfl (by decide +kernel) reads
  have refused : (s (.text "ab")).page (.first "t" (2 ^ 63) (Nat.two_pow_pos 63)) =
      .error (.foreign .integerTooLarge) := by
    have large : Cell.fitsInt ((2 ^ 63 : Nat) : Int) = false := by decide
    rw [page_of_table rfl]
    change (if !Cell.fitsInt ((2 ^ 63 : Nat) : Int) || _ then _ else _) = _
    rw [large]
    rfl
  exact ⟨⟨shown, rfl⟩, rfl, refused⟩

end Store

end IncidentBoard
