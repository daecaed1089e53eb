import IncidentBoard.Proofs.Store.Integrity
import IncidentBoard.Proofs.Store.Reads

/-!
# Runs that can be read

An insert checks that no cell is null, that the truth value is one and that keys are new. It looks
neither at times nor at texts: a time that is a text without a number in it is kept as it is, and so
is any real, and octets are kept wherever they are given. A run that was written can be read exactly
when its times are numbers that are whole in seconds, and not too large, and its texts are texts or
their octets in UTF-8; otherwise neither the run nor a page that it is on can be.

## Main definitions

* `Cell.IsTime`, `RunRow.Legible` — times that can be read, and rows.
* `RunRow.Accepted`, `Store.AcceptedSince` — what every insert makes sure of.
* `Store.rowsOn` — the rows on the page of a query.
* `Store.readable_iff_legible` — when a run that was written can be read.
-/

namespace IncidentBoard

open IncidentBoard.Field

/-! ## Times -/

/-- A number that is whole in seconds, rounded down; reals have to be in the range of whole ones. -/
def Cell.IsTime : Cell → Prop
  | .int _ => True
  | .real x => ∃ n, (x.floorDivide millis).toInt? = some n ∧
      -wholeRealBound ≤ n ∧ n ≤ wholeRealBound
  | _ => False

theorem Binary64.isFinite_of_toInt? {x : Binary64} {n : Int} (h : x.toInt? = some n) :
    x.isFinite = true := by
  cases x with
  | finite s m e => rfl
  | _ => cases h

theorem Field.wholeOfReal_ok_iff {x : Binary64} :
    (∃ n, wholeOfReal x = .ok n) ↔
      ∃ n, x.toInt? = some n ∧ -wholeRealBound ≤ n ∧ n ≤ wholeRealBound := by
  cases whole : x.toInt? with
  | none => cases finite : x.isFinite <;> simp [wholeOfReal, whole, finite, flawed]
  | some n =>
    have finite := Binary64.isFinite_of_toInt? whole
    by_cases large : n < -wholeRealBound ∨ wholeRealBound < n
    · have outside : ¬(-wholeRealBound ≤ n ∧ n ≤ wholeRealBound) := by omega
      simp [wholeOfReal, whole, finite, large, flawed, outside]
    · have inside : -wholeRealBound ≤ n ∧ n ≤ wholeRealBound := by omega
      simp [wholeOfReal, whole, finite, large, inside]

/-- A cell is a time exactly when it has seconds and these are read as a whole number. -/
theorem Cell.isTime_iff {c : Cell} : c.IsTime ↔ ∃ n, c.Tells n := by
  cases c with
  | int n => simp [IsTime, Tells, seconds, whole]
  | real x => simp [IsTime, Tells, seconds, whole, wholeOfReal_ok_iff]
  | _ => simp [IsTime, Tells, seconds]

/-! ## Rows -/

namespace RunRow

/-- A row that can be read: its times are times, and the cells of texts that a reader looks at are
read as texts. -/
structure Legible (r : RunRow) : Prop where
  createAt : r.createAt.IsTime
  endAt : r.endAt.IsTime
  texts : ∀ c : RunColumn, c.isRead = true → c.kind = .text → ∃ s, (r.get c).Spells s

/-- What every insert makes sure of: no null, and zero or one as the truth value. -/
structure Accepted (r : RunRow) : Prop where
  filled : ∀ c, r.get c ≠ .null
  truth : r.isActive = .int 0 ∨ r.isActive = .int 1

variable {r : RunRow} {x : Incident}

/-- What is read as an incident is legible. -/
theorem ReadAs.legible (reads : r.ReadAs x) : r.Legible := by
  refine ⟨Cell.isTime_iff.2 ⟨_, reads.createAt⟩, Cell.isTime_iff.2 ⟨_, reads.endAt⟩, ?_⟩
  intro c read kind
  cases c with
  | id => exact ⟨_, reads.id⟩
  | name => exact ⟨_, reads.name⟩
  | description => exact ⟨_, reads.description⟩
  | commander => exact ⟨_, reads.commander⟩
  | team => exact ⟨_, reads.team⟩
  | channel => exact ⟨_, reads.channel⟩
  | isActive | createAt | endAt | deleteAt => cases kind
  | activeStage | post | playbook => cases read

/-- A legible row without null is read as an incident. -/
theorem Legible.exists_readAs (legible : r.Legible) (active : r.isActive ≠ .null) :
    ∃ x, r.ReadAs x := by
  obtain ⟨created, createAt⟩ := Cell.isTime_iff.1 legible.createAt
  obtain ⟨ended, endAt⟩ := Cell.isTime_iff.1 legible.endAt
  obtain ⟨id, isId⟩ := legible.texts .id rfl rfl
  obtain ⟨name, isName⟩ := legible.texts .name rfl rfl
  obtain ⟨description, isDescription⟩ := legible.texts .description rfl rfl
  obtain ⟨commander, isCommander⟩ := legible.texts .commander rfl rfl
  obtain ⟨team, isTeam⟩ := legible.texts .team rfl rfl
  obtain ⟨channel, isChannel⟩ := legible.texts .channel rfl rfl
  let x : Incident := ⟨id, name, description, r.isActive.toJson.truthy, created, ended, commander,
    team, channel⟩
  exact ⟨x, isId, isName, isDescription, ⟨active, rfl⟩, createAt, endAt, isCommander, isTeam,
    isChannel⟩

/-- Rows that an insert accepted are read as incidents exactly when they are legible. -/
theorem Accepted.toIncident_ok_iff (accepted : r.Accepted) :
    (∃ x, r.toIncident = .ok x) ↔ r.Legible := by
  simp only [toIncident_eq_ok_iff]
  constructor
  · rintro ⟨x, reads⟩
    exact reads.legible
  · intro legible
    exact legible.exists_readAs (accepted.filled .isActive)

end RunRow

namespace Store

variable {s : Store} {q : ListQuery} {rows : List RunRow} {attributes : Json.Fields}

/-! ## Pages -/

/-- The rows on the page of a query. -/
def rowsOn (s : Store) (q : ListQuery) : List RunRow :=
  ListQuery.slice q.page q.perPage (matching q s.runRows)

theorem exists_mapM_ok_iff {α β : Type} {f : α → Except Failure β} {xs : List α} :
    (∃ ys, xs.mapM f = .ok ys) ↔ ∀ x ∈ xs, ∃ y, f x = .ok y := by
  induction xs with
  | nil => simp [pure, Except.pure]
  | cons x rest ih =>
    simp only [List.mapM_cons, bind_eq_ok_iff, List.forall_mem_cons, ← ih]
    constructor
    · rintro ⟨ys, y, first, zs, later, -⟩
      exact ⟨⟨y, first⟩, zs, later⟩
    · rintro ⟨⟨y, first⟩, zs, later⟩
      exact ⟨y :: zs, y, first, zs, later, rfl⟩

/-- A page that the store takes can be read exactly when each row on it can. -/
theorem page_ok_iff (table : s.runs = some rows) (range : q.InRange)
    (simple : tooComplex q rows = false) :
    (∃ p, s.page q = .ok p) ↔ ∀ r ∈ s.rowsOn q, ∃ x, r.toIncident = .ok x := by
  have present : s.runRows = rows := by simp [runRows, table]
  rw [page_eq_mapM table range simple, rowsOn, present, ← exists_mapM_ok_iff]
  simp only [bind_eq_ok_iff]
  constructor
  · rintro ⟨p, items, read, -⟩
    exact ⟨items, read⟩
  · rintro ⟨items, read⟩
    exact ⟨_, items, read, rfl⟩

/-! ## Rows that are written -/

/-- Every row of a store was there before, or an insert made sure of it. -/
def AcceptedSince (s t : Store) : Prop := ∀ r ∈ t.runRows, r ∈ s.runRows ∨ r.Accepted

theorem AcceptedSince.step {scope next : Scope} {step : WriteStep}
    (before : s.AcceptedSince scope.store) (h : scope.step step = .ok next) :
    s.AcceptedSince next.store := by
  cases step with
  | run attributes =>
    obtain ⟨rows, row, table, after, -, -, filled, truth⟩ := insertRun_ok (Scope.inserted_ok h)
    rw [AcceptedSince, runRows, table] at before
    rw [after]
    exact forall_mem_concat before (.inr ⟨filled, truth⟩)
  | post id createAt =>
    obtain ⟨rows, row, -, after, -⟩ := insertPost_ok (Scope.inserted_ok h)
    rw [after]
    exact before
  | link incident post =>
    obtain ⟨rows, row, -, after, -⟩ := insertLink_ok (Scope.inserted_ok h)
    rw [after]
    exact before
  | deferLinks =>
    cases h
    exact before
  | giveUp f => cases h

theorem acceptedSince_performAll (s : Store) (ops : List Operation) :
    s.AcceptedSince (s.performAll ops) := by
  refine performAll_preserves (fun steps before => ?_) (fun r hr => .inl hr) ops
  refine transaction_preserves before fun scope t ended done => ?_
  rw [Scope.commit_ok done]
  exact runAll_preserves (P := fun scope => s.AcceptedSince scope.store) AcceptedSince.step before
    ended

/-- The row of a run that was written, in a store whose rows have ids of their own. -/
theorem exists_written_row (sound : s.Sound) (ops : List Operation)
    (written : attributes ∈ (s.ledger ops).runs) :
    ∃ rows, (s.performAll ops).runs = some rows ∧
      ∃ row ∈ rows, RunRow.Records attributes row ∧ row.Accepted := by
  obtain ⟨added, records, tables, present⟩ := (s.enters_performAll ops).addRuns
  obtain ⟨row, member, record⟩ := forall₂_mem records written
  obtain ⟨old, table⟩ := Option.ne_none_iff_exists'.1 (present (List.ne_nil_of_mem written))
  rw [table, Option.map_some] at tables
  refine ⟨_, tables, row, List.mem_append_right _ member, record, ?_⟩
  have own := (sound.performAll ops).runs
  have accepted := s.acceptedSince_performAll ops row
  simp only [runRows, tables, table, Option.getD_some, List.map_append] at own accepted
  refine (accepted (List.mem_append_right _ member)).resolve_left fun there => ?_
  exact List.disjoint_of_nodup_append own (List.mem_map_of_mem there) (List.mem_map_of_mem member)

/-- A run that is written without a time at which it was deleted is live. -/
theorem isLive_of_kept {row : RunRow} (records : RunRow.Records attributes row)
    (kept : attributes.get? RunColumn.deleteAt.word = none ∨
      attributes.get? RunColumn.deleteAt.word = some (.int 0)) : row.isLive = true := by
  obtain ⟨v, given, holds⟩ := records.cells .deleteAt
  obtain rfl : v = .int 0 := by
    rcases kept with absent | zero
    · simpa [absent, RunColumn.default?] using given.symm
    · simpa [zero] using given.symm
  have deleteAt : row.deleteAt = .int 0 := Cell.Holds.int holds
  simp [RunRow.isLive, deleteAt]

/-- A run that was written, and not as deleted, to a store whose rows have keys of their own is
found by its id, as the store keeps it. Reading it by that id returns normally exactly when the row
is legible, and so does every page with the row on it whose other rows can be read. -/
theorem readable_iff_legible (sound : s.Sound) (ops : List Operation)
    (written : attributes ∈ (s.ledger ops).runs)
    (kept : attributes.get? RunColumn.deleteAt.word = none ∨
      attributes.get? RunColumn.deleteAt.word = some (.int 0)) :
    let t := s.performAll ops
    ∃ row ∈ t.runRows, RunRow.Records attributes row ∧ t.find row.id = .ok row ∧
      ((∃ x, t.incidentOf row.id = .ok x) ↔ row.Legible) ∧
      ∀ q : ListQuery, q.InRange → tooComplex q t.runRows = false → row ∈ t.rowsOn q →
        ((∃ p, t.page q = .ok p) ↔
          row.Legible ∧ ∀ r ∈ t.rowsOn q, r ≠ row → ∃ x, r.toIncident = .ok x) := by
  intro t
  obtain ⟨rows, table, row, member, records, accepted⟩ := exists_written_row sound ops written
  have present : t.runRows = rows := by simp [t, runRows, table]
  have own : (rows.map RunRow.id).Nodup := present ▸ (sound.performAll ops).runs
  have found : t.find row.id = .ok row :=
    (find_ok_iff table own).2 ⟨member, rfl, isLive_of_kept records kept⟩
  refine ⟨row, present ▸ member, records, found, ?_, fun q range simple shown => ?_⟩
  · rw [incidentOf_eq found, accepted.toIncident_ok_iff]
  · rw [page_ok_iff table range (present ▸ simple), ← accepted.toIncident_ok_iff]
    constructor
    · exact fun each => ⟨each row shown, fun r hr _ => each r hr⟩
    · rintro ⟨here, others⟩ r hr
      by_cases same : r = row
      · exact same ▸ here
      · exact others r hr same

/-- A run at 1500.5 milliseconds, with octets as its id, and a later one of another team whose end
is no number: the first can be read, by itself and on the page of its team. -/
theorem readable_of_real_time :
    let attributes : Json.Fields := [("ID", .bytes [0x61]), ("Name", .text "n"),
      ("CommanderUserID", .text "u"), ("TeamID", .text "t"),
      ("CreateAt", .real (.ofDecimal false 15005 (-1)))]
    let other : Json.Fields := [("ID", .text "a"), ("Name", .text "n"),
      ("CommanderUserID", .text "u"), ("TeamID", .text "v"), ("CreateAt", .int 0),
      ("EndAt", .text "soon")]
    let t := empty.performAll [.unit (.run attributes), .unit (.run other)]
    ∃ row ∈ t.runRows, RunRow.Records attributes row ∧ row.Legible ∧
      (∃ x, t.incidentOf row.id = .ok x) ∧
      ∃ p, t.page (ListQuery.first "t" 15 (by decide)) = .ok p := by
  intro attributes other t
  let kept : RunRow := ⟨.bytes [0x61], .text "n", .text "", .int 1, .text "u", .text "t", .text "",
    .real (.ofDecimal false 15005 (-1)), .int 0, .int 0, .int 0, .text "", .text ""⟩
  have written : attributes ∈ (empty.ledger [.unit (.run attributes), .unit (.run other)]).runs :=
    .head _
  obtain ⟨row, member, records, found, summary, page⟩ :=
    readable_iff_legible sound_empty _ written (.inl rfl)
  obtain rfl : row = kept := by
    obtain ⟨v, given, raw, cell, named⟩ := records.cells .id
    cases given
    cases cell
    have named : row.id = .bytes [0x61] := named
    rw [named] at found
    exact (Except.ok.inj found).symm
  have octets : Octets.text? [0x61] = some "a" := by decide +kernel
  have legible : kept.Legible := by
    refine ⟨⟨1, by decide +kernel, by decide, by decide⟩, trivial, ?_⟩
    intro c read kind
    cases c with
    | id => exact ⟨"a", octets⟩
    | name | description | commander | team | channel => exact ⟨_, rfl⟩
    | isActive | createAt | endAt | deleteAt => cases kind
    | activeStage | post | playbook => cases read
  have alone : t.rowsOn (ListQuery.first "t" 15 (by decide)) = [kept] := by decide +kernel
  refine ⟨kept, member, records, legible, summary.2 legible, ?_⟩
  refine (page _ ⟨by decide, by decide⟩ rfl ?_).2 ⟨legible, fun r hr other => ?_⟩
  · exact alone ▸ .head _
  · change r ∈ t.rowsOn _ at hr
    rw [alone] at hr
    exact absurd (List.mem_singleton.1 hr) other

/-- Runs with a text that is no number, or with too large a real, as their time are accepted, and so
are runs with octets that are no text as their name; then neither their summary nor the list of
their team can be read. -/
theorem unreadable_of_unchecked_cells :
    let attributes (name time : Json) : Json.Fields := [("ID", .text "i1"), ("Name", name),
      ("CommanderUserID", .text "u1"), ("TeamID", .text "t1"), ("CreateAt", time)]
    let ops (name time : Json) : List Operation := [.unit (.run (attributes name time))]
    ∀ given ∈ [(Json.text "Outage", Json.text "soon"),
        (.text "Outage", .real (.ofDecimal false 1 22)), (.bytes [0xFF], .int 0)],
      attributes given.1 given.2 ∈ (empty.ledger (ops given.1 given.2)).runs ∧
        (attributes given.1 given.2).get? RunColumn.deleteAt.word = none ∧
        ((empty.performAll (ops given.1 given.2)).summary "i1").isOk = false ∧
        ((empty.performAll (ops given.1 given.2)).page (.first "t1" 15 (by decide))).isOk =
          false := by
  intro attributes ops
  have accepted (name time : Json)
      (h : (empty.record (.run (attributes name time))).isOk = true) :
      attributes name time ∈ (empty.ledger (ops name time)).runs := by
    cases made : empty.record (.run (attributes name time)) with
    | ok t => simp [ops, ledger, written, made, Ledger.ofWriting, Writing.runs]
    | error f => rw [made] at h; cases h
  simp only [List.forall_mem_cons]
  refine ⟨⟨accepted _ _ ?_, rfl, ?_, ?_⟩, ⟨accepted _ _ ?_, rfl, ?_, ?_⟩,
    ⟨accepted _ _ ?_, rfl, ?_, ?_⟩, List.forall_mem_nil _⟩ <;> decide +kernel

end Store

end IncidentBoard
