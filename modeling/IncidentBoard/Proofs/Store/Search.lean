import IncidentBoard.Proofs.Store.Readable
import IncidentBoard.Proofs.Text.Lowercase

/-!
# Searching by a part of a name

A search term is taken to lower case by the full maps, the names in the store by that of ASCII
letters. A live row whose name holds the term is found exactly when the term in lower case occurs in
the name as a pattern sees both; then every page counts it and one of them shows it. That is so for
each term whose characters outside ASCII are their own lower case. Another capital is lost: its
lower case does not occur in the name.

## Main definitions

* `ListQuery.SearchesOnly` — the queries with a search term and no other filter.
* `Store.Finds` — what it means for the pages of a query to count a row and show it.
* `Store.finds_iff_occurs` — when a row whose name holds the term is found.
-/

namespace IncidentBoard

/-- A query with a search term and no other filter. -/
structure ListQuery.SearchesOnly (q : ListQuery) (term : String) : Prop where
  search : q.search = some term
  commander : given? q.commander = none
  status : restriction? q.status = none

namespace Store

variable {s : Store} {q : ListQuery} {rows : List RunRow} {r : RunRow} {name term : String}

/-! ## Reading in a row -/

theorem mapM_ok_iff {α β : Type} {f : α → Except Failure β} {xs : List α} {ys : List β} :
    xs.mapM f = .ok ys ↔ List.Forall₂ (fun x y => f x = .ok y) xs ys := by
  induction xs generalizing ys with
  | nil => cases ys <;> simp [pure, Except.pure]
  | cons x rest ih =>
    simp only [List.mapM_cons, bind_eq_ok_iff, List.forall₂_cons_left_iff, ih]
    constructor
    · rintro ⟨y, first, zs, later, same⟩
      exact ⟨y, zs, first, later, (Except.ok.inj same).symm⟩
    · rintro ⟨y, zs, first, later, rfl⟩
      exact ⟨y, first, zs, later, rfl⟩

/-- The items of a page are the rows on it, read one by one, and its total is the number of rows
found. -/
theorem page_ok {p : IncidentsPage} (h : s.page q = .ok p) :
    List.Forall₂ (fun r x => r.toIncident = .ok x) (s.rowsOn q) p.items ∧
      p.total = (matching q s.runRows).length := by
  obtain ⟨rows, table⟩ : ∃ rows, s.runs = some rows := by
    cases table : s.runs with
    | some rows => exact ⟨rows, rfl⟩
    | none => simp [page, table, rowsOf, bind, Except.bind] at h
  have present : s.runRows = rows := by simp [runRows, table]
  rw [page_of_table table] at h
  split at h
  · cases h
  · split at h
    · cases h
    · obtain ⟨items, read, same⟩ := bind_eq_ok_iff.1 h
      obtain rfl := Except.ok.inj same
      rw [rowsOn, present]
      exact ⟨mapM_ok_iff.1 read, rfl⟩

/-! ## Rows on pages -/

/-- Each row found is on a page, which is not behind the last one. -/
theorem exists_page_of_mem (member : r ∈ matching q s.runRows) :
    ∃ k, k * q.perPage < (matching q s.runRows).length ∧ r ∈ s.rowsOn { q with page := k } := by
  have tiled := ListQuery.flatMap_slice q.perPage (matching q s.runRows).length
    (matching q s.runRows)
  rw [List.take_of_length_le (Nat.le_mul_of_pos_right _ q.perPage_pos)] at tiled
  rw [← tiled] at member
  obtain ⟨k, -, shown⟩ := List.mem_flatMap.1 member
  exact ⟨k, (ListQuery.slice_ne_nil q.perPage_pos).1 (List.ne_nil_of_mem shown), shown⟩

/-- The pages of a query count a row, and one of them shows it. -/
structure Finds (s : Store) (q : ListQuery) (r : RunRow) : Prop where
  /-- Every page has the number of rows found as its total, and the row is one of them. -/
  counted : r ∈ matching q s.runRows ∧ ∀ k p, s.page { q with page := k } = .ok p →
    p.total = (matching q s.runRows).length
  shown : ∃ k, k * q.perPage < (matching q s.runRows).length ∧
    r ∈ s.rowsOn { q with page := k } ∧
    ∀ p, s.page { q with page := k } = .ok p → ∃ x ∈ p.items, r.toIncident = .ok x
  /-- Nothing but a row that cannot be read keeps a page back. -/
  answered : ∀ k, { q with page := k }.InRange → ((∃ p, s.page { q with page := k } = .ok p) ↔
    ∀ r ∈ s.rowsOn { q with page := k }, ∃ x, r.toIncident = .ok x)

theorem finds_iff_mem (table : s.runs = some rows) (simple : tooComplex q rows = false) :
    s.Finds q r ↔ r ∈ matching q s.runRows := by
  refine ⟨fun found => found.counted.1, fun member => ⟨⟨member, ?_⟩, ?_, ?_⟩⟩
  · intro k p h
    exact (page_ok h).2
  · obtain ⟨k, inside, shown⟩ := exists_page_of_mem member
    refine ⟨k, inside, shown, fun p h => ?_⟩
    exact forall₂_mem (page_ok h).1 shown
  · intro k range
    exact page_ok_iff table range simple

/-! ## Searches -/

/-- A search without other filters asks for the live rows of its team with a name that the term, in
lower case, occurs in as a pattern sees both. -/
theorem selects_iff_occurs (only : q.SearchesOnly term) (given : term ≠ "")
    (free : '\x00' ∉ term.toList) (named : r.name = .text name) (plain : '\x00' ∉ name.toList) :
    selects q r = true ↔ (r.team = .text q.team ∧ r.isLive = true) ∧
      (Text.lowercase term).toList.map Like.seen <:+: name.toList.map Like.seen := by
  have search := ListQuery.given?_eq_some.2 ⟨only.search, given⟩
  have passed : passes q r = (r.team == .text q.team && r.isLive) := by
    rcases all : q.status with _ | _ | _ | _
    case none | some.all => simp [passes, only.commander, all]
    case some.active | some.ended =>
      have open' := only.status
      simp [ListQuery.restriction?, all] at open'
  have occurs := Like.isMatch_lower (Text.nul_not_mem_lowercase free) plain
  rw [selects, passed, matchesSearch, search, named, Bool.and_eq_true, Bool.and_eq_true, beq_iff_eq]
  simp only [pattern, nameCodes, lower, String.toList_ofList, occurs]

/-- A live row whose name holds the search term is found exactly when the term in lower case occurs
in the name as a pattern sees both: without regard to the case of ASCII letters, and with the two
codes behind the replacement character taken for it. It is found where the characters of the term
outside ASCII are their own lower case. -/
theorem finds_iff_occurs (table : s.runs = some rows) (member : r ∈ rows) (live : r.isLive = true)
    (team : r.team = .text q.team) (named : r.name = .text name) (plain : '\x00' ∉ name.toList)
    (only : q.SearchesOnly term) (given : term ≠ "") (occurs : term.toList <:+: name.toList)
    (short : (String.ofList (pattern term)).utf8ByteSize ≤ patternLimit) :
    (s.Finds q r ↔
      (Text.lowercase term).toList.map Like.seen <:+: name.toList.map Like.seen) ∧
      ((∀ c ∈ term.toList, Text.isAscii c = true ∨ Text.lowerChar c = [c]) → s.Finds q r) := by
  have present : s.runRows = rows := by simp [runRows, table]
  have simple : tooComplex q rows = false := by
    simp [tooComplex, ListQuery.given?_eq_some.2 ⟨only.search, given⟩, Nat.not_lt.2 short]
  have free : '\x00' ∉ term.toList := fun nul => plain (occurs.subset nul)
  have found : s.Finds q r ↔
      (Text.lowercase term).toList.map Like.seen <:+: name.toList.map Like.seen := by
    rw [finds_iff_mem table simple, present, mem_matching,
      selects_iff_occurs only given free named plain]
    simp [member, team, live]
  refine ⟨found, fun own => found.2 ?_⟩
  rw [Text.lowercase_eq_map own, Like.map_seen_toLower]
  exact occurs.map Like.seen

/-- A term of letters outside ASCII, capitals and special characters, over two rows, one of them
deleted. -/
theorem finds_of_special_characters :
    let row (id : String) (deleted : Int) : RunRow := ⟨.text id, .text "Grüße: 100%_Done/",
      .text "", .int 1, .text "u", .text "t", .text "", .int 1500, .int 0, .int deleted, .int 0,
      .text "", .text ""⟩
    let q : ListQuery := { ListQuery.first "t" 15 (by decide) with search := some "üße: 100%_D" }
    Finds ⟨some [row "a" 7, row "b" 0], some [], some []⟩ q (row "b" 0) := by
  intro row q
  have own : ∀ c ∈ "üße: 100%_D".toList, Text.isAscii c = true ∨ Text.lowerChar c = [c] := by
    have every : ("üße: 100%_D".toList.all fun c =>
        decide (Text.isAscii c = true ∨ Text.lowerChar c = [c])) = true := by decide +kernel
    intro c member
    exact of_decide_eq_true (List.all_eq_true.1 every c member)
  have occurs : "üße: 100%_D".toList <:+: "Grüße: 100%_Done/".toList :=
    ⟨"Gr".toList, "one/".toList, by decide⟩
  have short : (String.ofList (pattern "üße: 100%_D")).utf8ByteSize ≤ patternLimit := by
    decide +kernel
  exact (finds_iff_occurs rfl (.tail _ (.head _)) (by decide) (by decide) rfl (by decide)
    ⟨rfl, rfl, rfl⟩ (by decide) occurs short).2 own

/-- A capital outside ASCII is searched for by its lower case, which the store does not find in the
name, while a list of the same incident does. -/
theorem not_found_of_capital :
    let row : RunRow := ⟨.text "i1", .text "É", .text "", .int 1, .text "u1", .text "t1", .text "",
      .int 1700000000000, .int 0, .int 0, .int 0, .text "", .text ""⟩
    let q : ListQuery := { ListQuery.first "t1" 15 (by decide) with search := some "É" }
    let s : Store := ⟨some [row], some [], some []⟩
    row.isLive = true ∧ row.team = .text q.team ∧ q.SearchesOnly "É" ∧
      (String.ofList (pattern "É")).utf8ByteSize ≤ patternLimit ∧
      s.page q = .ok ⟨[], 0⟩ ∧ q.answer [row.incident] = ⟨[row.incident], 1⟩ := by
  intro row q s
  have only : q.SearchesOnly "É" := ⟨rfl, rfl, rfl⟩
  have short : (String.ofList (pattern "É")).utf8ByteSize ≤ patternLimit := by decide +kernel
  have apart : ¬ (Text.lowercase "É").toList.map Like.seen <:+: "É".toList.map Like.seen := by
    decide +kernel
  have lost : matching q [row] = [] := by
    refine List.eq_nil_iff_forall_not_mem.2 fun r hr => ?_
    obtain ⟨member, selected⟩ := mem_matching.1 hr
    have named : r.name = .text "É" := List.mem_singleton.1 member ▸ rfl
    exact apart ((selects_iff_occurs only (by decide) (by decide) named (by decide)).1 selected).2
  refine ⟨by decide, by decide, only, short, ?_, by decide +kernel⟩
  rw [page_eq_mapM rfl ⟨by decide, by decide⟩ (by decide +kernel), lost]
  rfl

end Store

end IncidentBoard
