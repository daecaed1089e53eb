import IncidentBoard.Store.Insert
import Mathlib.Data.List.Forall2

/-!
# Rows that are inserted

An insert that succeeds adds one row behind the others of its table and touches nothing else. The
row holds in each column the value given for it, or the default of the column, made to fit.

## Main definitions

* `Json.cell?`, `Cell.Holds` — the cell of a value, and cells of columns that hold a value.
* `Store.Checked` — what a given value becomes in a column.
* `Store.Records` — cells that hold the values given for their columns.
* `RunRow.Records`, `PostRow.Records`, `LinkRow.Records` — the rows that are asked for.
* `Store.Points` — links that point to rows.
* `Store.insertRun_ok`, `Store.insertPost_ok`, `Store.insertLink_ok` — what inserts add.
-/

namespace IncidentBoard

/-- The cell of a value, before it is made to fit its column; lists, objects, numbers that are too
large and texts that cannot be encoded have none. -/
def Json.cell? : Json → Option Cell
  | .null => some .null
  | .bool b => some (.int (if b then 1 else 0))
  | .int n => if Cell.fitsInt n then some (.int n) else none
  | .real .nan => some .null
  | .real x => some (.real x)
  | .text s => some (.text s)
  | .bytes os => some (.bytes os)
  | .loose _ | .list _ | .object _ => none

/-- A cell of a column of some kind holds a value. -/
def Cell.Holds (kind : ColumnKind) (v : Json) (c : Cell) : Prop :=
  ∃ raw, v.cell? = some raw ∧ c = raw.fit kind

namespace Store

/-- Cells that hold the values given for their columns, each column having one. -/
def Records {χ : Type} (kind : χ → ColumnKind) (value? : χ → Option Json) (cells : χ → Cell) :
    Prop :=
  ∀ c, ∃ v, value? c = some v ∧ (cells c).Holds (kind c) v

end Store

/-- A row that is asked for by the attributes of a run: their names are columns, and columns that
are left out have their default. -/
structure RunRow.Records (attributes : Json.Fields) (row : RunRow) : Prop where
  known : ∀ p ∈ attributes, ∃ c : RunColumn, c.word = p.1
  cells : Store.Records RunColumn.kind (fun c => (attributes.get? c.word).or c.default?) row.get

/-- A row that is asked for by the id and the time of a post. -/
structure PostRow.Records (post : Json × Json) (row : PostRow) : Prop where
  id : row.id.Holds .text post.1
  createAt : row.createAt.Holds .integer post.2

/-- A row that is asked for by the ids of a run and of a post. -/
structure LinkRow.Records (link : Json × Json) (row : LinkRow) : Prop where
  incident : row.incident.Holds .text link.1
  post : row.post.Holds .text link.2

namespace Store

/-! ## Values -/

theorem bind_eq_ok_iff {ε α β : Type} {x : Except ε α} {f : α → Except ε β} {b : β} :
    x >>= f = .ok b ↔ ∃ a, x = .ok a ∧ f a = .ok b := by
  cases x <;> simp [bind, Except.bind]

theorem cellOf_ok {n : Nat} {v : Json} {c : Cell} (h : cellOf n v = .ok c) : v.cell? = some c := by
  cases v with
  | int n =>
    simp only [cellOf] at h
    split at h
    · rename_i fits
      cases h
      simp [Json.cell?, fits]
    · cases h
  | real x => cases x <;> cases h <;> rfl
  | loose text => cases h
  | list items => cases h
  | object fields => cases h
  | _ => cases h; rfl

/-- Truth values that are made numbers are held like numbers. -/
theorem truthValue_holds {v w : Json} {c : Cell} (h : truthValue v = .ok w)
    (holds : c.Holds .boolean w) : c.Holds .boolean v := by
  cases v with
  | null => cases h; exact holds
  | bool b =>
    cases h
    obtain ⟨raw, cell, rfl⟩ := holds
    have fits : Cell.fitsInt (if b then 1 else 0) = true := by cases b <;> rfl
    rw [Json.cell?, if_pos fits] at cell
    exact ⟨raw, cell, rfl⟩
  | int n =>
    simp only [truthValue] at h
    split at h
    · cases h
      exact holds
    · cases h
  | real x =>
    have whole : ∀ n : Int, x.toInt? = some n → (n = 0 ∨ n = 1) → c.Holds .boolean (.int n) →
        c.Holds .boolean (.real x) := by
      rintro n int small ⟨raw, cell, rfl⟩
      have fits : Cell.fitsInt n = true ∧ -Cell.intBound < n ∧ n < Cell.intBound - 1 := by
        rcases small with rfl | rfl <;> decide
      rw [Json.cell?, if_pos fits.1, Option.some.injEq] at cell
      subst cell
      refine ⟨.real x, ?_, ?_⟩
      · cases x <;> first | rfl | cases int
      · simp [Cell.fit, Cell.wholeOfReal, int, fits.2]
    simp only [truthValue] at h
    split at h
    · rename_i int
      cases h
      exact whole 0 int (.inl rfl) holds
    · rename_i int
      cases h
      exact whole 1 int (.inr rfl) holds
    · cases h
  | _ => cases h

/-- A truth value that is taken becomes null, zero or one. -/
theorem truthValue_ok {v w : Json} (h : truthValue v = .ok w) :
    w = .null ∨ w = .int 0 ∨ w = .int 1 := by
  cases v with
  | null => cases h; simp
  | bool b => cases b <;> cases h <;> simp
  | int n =>
    simp only [truthValue] at h
    split at h <;> cases h
    simpa using ‹_›
  | real x =>
    simp only [truthValue] at h
    split at h <;> cases h <;> simp
  | _ => cases h

/-- A truth column that is not null holds zero or one. -/
theorem truth_of_truthValue {v w : Json} {c : Cell} (h : truthValue v = .ok w)
    (holds : c.Holds .boolean w) (some : c ≠ .null) : c = .int 0 ∨ c = .int 1 := by
  obtain ⟨raw, cell, rfl⟩ := holds
  rcases truthValue_ok h with rfl | rfl | rfl <;> cases cell
  · exact absurd rfl some
  · exact .inl rfl
  · exact .inr rfl

/-- A value is what a given one becomes in a column: a truth value is made a number. -/
def Checked (kind : ColumnKind) (v w : Json) : Prop :=
  if kind = .boolean then truthValue v = .ok w else v = w

theorem Checked.holds {k : ColumnKind} {v w : Json} {c : Cell} (h : Checked k v w)
    (holds : c.Holds k w) : c.Holds k v := by
  unfold Checked at h
  split at h
  · rename_i boolean
    subst boolean
    exact truthValue_holds h holds
  · exact h ▸ holds

/-! ## Cells of columns -/

section Columns

variable {χ : Type} {kind : χ → ColumnKind} {given checked : Given χ} {cells : List (χ × Cell)}

theorem checkTruths_ok (h : checkTruths kind given = .ok checked) :
    List.Forall₂ (fun x y => x.1 = y.1 ∧ Checked (kind x.1) x.2 y.2) given checked := by
  induction given generalizing checked with
  | nil => cases h; exact .nil
  | cons x rest ih =>
    obtain ⟨k, v⟩ := x
    by_cases boolean : kind k = .boolean
    · simp only [checkTruths, boolean, if_true, bind_eq_ok_iff] at h
      obtain ⟨w, read, later, ok, h⟩ := h
      cases h
      exact .cons ⟨rfl, by rwa [Checked, if_pos boolean]⟩ (ih ok)
    · simp only [checkTruths, boolean, if_false, bind_eq_ok_iff] at h
      obtain ⟨w, read, later, ok, h⟩ := h
      cases read
      cases h
      exact .cons ⟨rfl, by rw [Checked, if_neg boolean]⟩ (ih ok)

theorem cellsFrom_ok {n : Nat} (h : cellsFrom kind n given = .ok cells) :
    List.Forall₂ (fun x y => x.1 = y.1 ∧ Cell.Holds (kind x.1) x.2 y.2) given cells := by
  induction given generalizing n cells with
  | nil => cases h; exact .nil
  | cons x rest ih =>
    obtain ⟨k, v⟩ := x
    simp only [cellsFrom, bind_eq_ok_iff] at h
    obtain ⟨raw, read, later, ok, h⟩ := h
    cases h
    exact .cons ⟨rfl, raw, cellOf_ok read, rfl⟩ (ih ok)

variable {α β : Type} [DecidableEq χ]

/-- What holds of entries in turn holds of what is found for a column. -/
theorem lookup_of_forall₂ {R : χ → α → β → Prop} {xs : List (χ × α)} {ys : List (χ × β)}
    (h : List.Forall₂ (fun x y => x.1 = y.1 ∧ R x.1 x.2 y.2) xs ys) {c : χ} {b : β}
    (found : ys.lookup c = some b) : ∃ a, xs.lookup c = some a ∧ R c a b := by
  induction h with
  | nil => cases found
  | @cons x y xs ys first _ ih =>
    obtain ⟨k, a⟩ := x
    obtain ⟨k', b'⟩ := y
    obtain ⟨rfl, related⟩ := first
    by_cases here : c = k
    · subst here
      simp only [List.lookup_cons, beq_self_eq_true, Option.some.injEq] at found ⊢
      subst found
      exact ⟨a, rfl, related⟩
    · have elsewhere : (c == k) = false := by simpa using here
      simp only [List.lookup_cons, elsewhere] at found ⊢
      exact ih found

omit [DecidableEq χ] in
theorem ne_null_of_nullColumn? {columns : List χ} {cell : χ → Cell} (all : ∀ c, c ∈ columns)
    (full : nullColumn? columns cell = none) (c : χ) : cell c ≠ .null := by
  simpa using List.find?_eq_none.1 full c (all c)

/-- Where no column is null, each one holds the value given for it. -/
theorem records_cellAt {n : Nat} {columns : List χ} (all : ∀ c, c ∈ columns)
    (read : cellsFrom kind n given = .ok cells)
    (full : nullColumn? columns (cellAt cells) = none) :
    Records kind (fun c => given.lookup c) (cellAt cells) := by
  intro c
  have some := ne_null_of_nullColumn? all full c
  cases found : cells.lookup c with
  | none => simp [cellAt, found] at some
  | some cell =>
    have here : cellAt cells c = cell := by simp [cellAt, found]
    rw [here]
    exact lookup_of_forall₂ (R := fun c v cell => Cell.Holds (kind c) v cell)
      (cellsFrom_ok read) found

theorem Records.of_checkTruths {cells : χ → Cell} (h : checkTruths kind given = .ok checked)
    (records : Records kind (fun c => checked.lookup c) cells) :
    Records kind (fun c => given.lookup c) cells := by
  intro c
  obtain ⟨w, found, holds⟩ := records c
  obtain ⟨v, found', made⟩ := lookup_of_forall₂ (R := fun k v w => Checked (kind k) v w)
    (checkTruths_ok h) found
  exact ⟨v, found', made.holds holds⟩

theorem lookup_filterMap {f : χ → Option α} {columns : List χ} {c : χ} (member : c ∈ columns) :
    (columns.filterMap fun k => (f k).map fun a => (k, a)).lookup c = f c := by
  induction columns with
  | nil => cases member
  | cons k rest ih =>
    by_cases here : c = k
    · subst here
      cases value : f c with
      | some a => simp [value]
      | none =>
        -- The column has no value, here or later.
        have none : ∀ rest : List χ,
            (rest.filterMap fun k => (f k).map fun a => (k, a)).lookup c = none := by
          intro rest
          rw [List.lookup_eq_none_iff]
          intro p hp
          obtain ⟨k, -, some⟩ := List.mem_filterMap.1 hp
          obtain ⟨a, found, rfl⟩ := Option.map_eq_some_iff.1 some
          refine bne_iff_ne.2 fun same => ?_
          rw [same, found] at value
          cases value
        exact none _
    · have later : c ∈ rest := (List.mem_cons.1 member).resolve_left here
      have elsewhere : (c == k) = false := by simpa using here
      cases value : f k with
      | some a => simpa [value, List.lookup_cons, elsewhere] using ih later
      | none => simpa [value] using ih later

end Columns

theorem addRow_ok {ρ : Type} {sameKey : ρ → ρ → Bool} {key : List (Table × String)}
    {rows new : List ρ} {row : ρ} (h : addRow sameKey key rows row = .ok new) :
    new = rows ++ [row] ∧ ∀ r ∈ rows, sameKey row r = false := by
  unfold addRow at h
  split at h
  · cases h
  · rename_i free
    cases h
    exact ⟨rfl, by simpa using free⟩

/-! ## Inserts -/

theorem mem_all (c : RunColumn) : c ∈ RunColumn.all := by
  cases c <;> decide

/-- The columns of a run are given the value of their attribute, or their default. -/
theorem lookup_givenRun (attributes : Json.Fields) (c : RunColumn) :
    (givenRun attributes).lookup c = (attributes.get? c.word).or c.default? := by
  have given : givenRun attributes = RunColumn.all.filterMap fun k =>
      ((attributes.get? k.word).or k.default?).map fun v => (k, v) := by
    unfold givenRun
    congr 1
    funext k
    cases attributes.get? k.word <;> rfl
  rw [given]
  exact lookup_filterMap (mem_all c)

theorem known_of_unknownNames {attributes : Json.Fields} (none : unknownNames attributes = []) :
    ∀ p ∈ attributes, ∃ c : RunColumn, c.word = p.1 := by
  intro p hp
  have known := List.filter_eq_nil_iff.1 none p.1 (List.mem_map_of_mem hp)
  simp only [Bool.not_eq_true, Bool.not_eq_false', List.contains_iff_mem, List.mem_map] at known
  obtain ⟨c, -, word⟩ := known
  exact ⟨c, word⟩

variable {s t : Store}

/-- An insert of a run adds the row that its attributes ask for, with an id of its own, no null and
zero or one as the truth value. -/
theorem insertRun_ok {attributes : Json.Fields} (h : s.insertRun attributes = .ok t) :
    ∃ rows row, s.runs = some rows ∧ t = { s with runs := some (rows ++ [row]) } ∧
      RunRow.Records attributes row ∧ (∀ r ∈ rows, row.id ≠ r.id) ∧ (∀ c, row.get c ≠ .null) ∧
        (row.isActive = .int 0 ∨ row.isActive = .int 1) := by
  unfold insertRun at h
  by_cases unknown : unknownNames attributes = []
  · simp only [unknown, ne_eq, not_true_eq_false, if_false, bind_eq_ok_iff] at h
    cases present : s.runs with
    | none =>
      simp only [present] at h
      obtain ⟨given, -, h⟩ := h
      cases h
    | some rows =>
      simp only [present, bind_eq_ok_iff] at h
      obtain ⟨given, checked, cells, read, h⟩ := h
      split at h
      · cases h
      · rename_i full
        obtain ⟨new, added, h⟩ := bind_eq_ok_iff.1 h
        cases h
        obtain ⟨rfl, own⟩ := addRow_ok added
        have full := Option.eq_none_iff_forall_ne_some.2 full
        have filled := ne_null_of_nullColumn? mem_all full
        have held := records_cellAt mem_all read full
        have records := held.of_checkTruths checked
        simp only [lookup_givenRun] at records
        refine ⟨rows, _, rfl, rfl, ⟨known_of_unknownNames unknown, fun c => ?_⟩, by simpa using own,
          fun c => ?_, ?_⟩
        · rw [RunRow.get_ofCells]
          exact records c
        · rw [RunRow.get_ofCells]
          exact filled c
        · obtain ⟨w, found, holds⟩ := held .isActive
          obtain ⟨v, -, made⟩ := lookup_of_forall₂
            (R := fun k v w => Checked (RunColumn.kind k) v w)
            (checkTruths_ok checked) found
          exact truth_of_truthValue made holds (filled .isActive)
  · simp only [ne_eq, unknown, not_false_eq_true, if_true] at h
    cases h

/-- An insert of a post adds the row that is asked for, with an id of its own and no null. -/
theorem insertPost_ok {id createAt : Json} (h : s.insertPost id createAt = .ok t) :
    ∃ rows row, s.posts = some rows ∧ t = { s with posts := some (rows ++ [row]) } ∧
      PostRow.Records (id, createAt) row ∧ (∀ r ∈ rows, row.id ≠ r.id) ∧
        ∀ c, row.get c ≠ .null := by
  unfold insertPost at h
  cases present : s.posts with
  | none =>
    rw [present] at h
    cases h
  | some rows =>
    simp only [present, bind_eq_ok_iff] at h
    obtain ⟨cells, read, h⟩ := h
    split at h
    · cases h
    · rename_i full
      obtain ⟨new, added, h⟩ := bind_eq_ok_iff.1 h
      cases h
      obtain ⟨rfl, own⟩ := addRow_ok added
      have all : ∀ c : PostColumn, c ∈ PostColumn.all := fun c => by cases c <;> decide
      have full := Option.eq_none_iff_forall_ne_some.2 full
      have records := records_cellAt all read full
      obtain ⟨v, given, holds⟩ := records .id
      obtain ⟨w, given', holds'⟩ := records .createAt
      cases given
      cases given'
      refine ⟨rows, _, rfl, rfl, ⟨holds, holds'⟩, by simpa using own, fun c => ?_⟩
      rw [PostRow.get_ofCells]
      exact ne_null_of_nullColumn? all full c

/-- A link that points to a run and to a post of a store. -/
def Points (s : Store) (l : LinkRow) : Prop :=
  (∃ r ∈ s.runRows, r.id = l.incident) ∧ ∃ p ∈ s.postRows, p.id = l.post

/-- An insert of a link adds the row that is asked for, that is not there yet and has no null; it
points to rows unless that is not checked at once. -/
theorem insertLink_ok {deferred : Bool} {incident post : Json}
    (h : s.insertLink deferred incident post = .ok t) :
    ∃ rows row, s.links = some rows ∧ t = { s with links := some (rows ++ [row]) } ∧
      LinkRow.Records (incident, post) row ∧ row ∉ rows ∧ (deferred = false → s.Points row) ∧
        ∀ c, row.get c ≠ .null := by
  unfold insertLink at h
  cases present : s.links with
  | none =>
    rw [present] at h
    cases h
  | some rows =>
    simp only [present, bind_eq_ok_iff] at h
    obtain ⟨cells, read, h⟩ := h
    split at h
    · cases h
    · rename_i full
      obtain ⟨new, added, h⟩ := bind_eq_ok_iff.1 h
      obtain ⟨rfl, own⟩ := addRow_ok added
      split at h
      · cases h
      · rename_i found
        cases h
        have all : ∀ c : LinkColumn, c ∈ LinkColumn.all := fun c => by cases c <;> decide
        have full := Option.eq_none_iff_forall_ne_some.2 full
        have records := records_cellAt all read full
        obtain ⟨v, given, holds⟩ := records .incident
        obtain ⟨w, given', holds'⟩ := records .post
        cases given
        cases given'
        refine ⟨rows, _, rfl, rfl, ⟨holds, holds'⟩, fun member => by simpa using own _ member, ?_,
          fun c => ?_⟩
        · rintro rfl
          simpa [Points] using found
        · rw [LinkRow.get_ofCells]
          exact ne_null_of_nullColumn? all full c

end Store

end IncidentBoard
