import IncidentBoard.Store.Schema
import IncidentBoard.Json.Literal

/-!
# Inserts

One row is added to a table, or the store rejects it and stays as it is. The checks have an order:
unknown columns, truth values, the table itself, values that no column can hold, null where it is
not allowed, keys that are taken, and links that point nowhere.

## Main definitions

* `Rejection` — why a row is rejected, with `Rejection.message`.
* `Store.insertRun`, `Store.insertPost`, `Store.insertLink`.
-/

namespace IncidentBoard

namespace Store

/-- Why the store rejects a row. -/
inductive Rejection where
  | unknownColumns (names : List String)
  | truthNumber (v : Json)
  | truthType (v : Json)
  | truthHash (typeWord : String)
  | noTable (table : Table)
  | unsupported (position : Nat) (typeWord : String)
  | null (table : Table) (column : String)
  | taken (columns : List (Table × String))
  | dangling
  | unopened
  deriving Repr

def Rejection.message : Rejection → String
  | .unknownColumns names => "Unconsumed column names: " ++ String.intercalate ", " names
  | .truthNumber v => s!"Value {v.literal} is not None, True, or False"
  | .truthType v => s!"Not a boolean value: {v.literal}"
  | .truthHash t => s!"unhashable type: '{t}'"
  | .noTable t => s!"no such table: {t.word}"
  | .unsupported n t => s!"Error binding parameter {n}: type '{t}' is not supported"
  | .null t c => s!"NOT NULL constraint failed: {t.word}.{c}"
  | .taken cs => "UNIQUE constraint failed: " ++
      String.intercalate ", " (cs.map fun (t, c) => s!"{t.word}.{c}")
  | .dangling => "FOREIGN KEY constraint failed"
  | .unopened => "unable to open database file"

/-- Why an insert adds no row: the store rejects it, a whole number does not fit a cell, or a text
cannot be encoded. -/
inductive Refusal where
  | rejected (why : Rejection)
  | tooLarge
  | unencodable (text : LooseText)
  deriving Repr

/-! ## Values -/

/-- The value of a column of truth values. -/
def truthValue (v : Json) : Except Refusal Json :=
  match v with
  | .null => .ok .null
  | .bool b => .ok (.int (if b then 1 else 0))
  | .int n => if n = 0 ∨ n = 1 then .ok v else .error (.rejected (.truthNumber v))
  | .real x =>
    match x.toInt? with
    | some 0 => .ok (.int 0)
    | some 1 => .ok (.int 1)
    | _ => .error (.rejected (.truthType v))
  | .text _ | .loose _ | .bytes _ => .error (.rejected (.truthType v))
  | .list _ => .error (.rejected (.truthHash v.typeWord))
  | .object _ => .error (.rejected (.truthHash v.typeWord))

/-- The cell of a value given at a position. -/
def cellOf (position : Nat) (v : Json) : Except Refusal Cell :=
  match v with
  | .null => .ok .null
  | .bool b => .ok (.int (if b then 1 else 0))
  | .int n => if Cell.fitsInt n then .ok (.int n) else .error .tooLarge
  | .real .nan => .ok .null
  | .real x => .ok (.real x)
  | .text s => .ok (.text s)
  | .loose t => .error (.unencodable t)
  | .bytes os => .ok (.bytes os)
  | .list _ => .error (.rejected (.unsupported position v.typeWord))
  | .object _ => .error (.rejected (.unsupported position v.typeWord))

/-- A column with the value given for it. -/
abbrev Given (χ : Type) := List (χ × Json)

/-- Values of truth columns checked and made numbers, the others as they are. -/
def checkTruths {χ : Type} (kind : χ → ColumnKind) : Given χ → Except Refusal (Given χ)
  | [] => .ok []
  | (c, v) :: rest => do
    let v ← if kind c = .boolean then truthValue v else pure v
    return (c, v) :: (← checkTruths kind rest)

/-- The cells of the values from a position on, made to fit their columns. -/
def cellsFrom {χ : Type} (kind : χ → ColumnKind) :
    Nat → Given χ → Except Refusal (List (χ × Cell))
  | _, [] => .ok []
  | n, (c, v) :: rest => do
    let cell ← cellOf n v
    return (c, cell.fit (kind c)) :: (← cellsFrom kind (n + 1) rest)

/-- The cell of a column; one that is not given is null. -/
def cellAt {χ : Type} [DecidableEq χ] (cells : List (χ × Cell)) (c : χ) : Cell :=
  (cells.lookup c).getD .null

def nullColumn? {χ : Type} (columns : List χ) (cell : χ → Cell) : Option χ :=
  columns.find? fun c => cell c == .null

/-- Add a row behind others, unless one of them has its key. -/
def addRow {ρ : Type} (sameKey : ρ → ρ → Bool) (key : List (Table × String)) (rows : List ρ)
    (row : ρ) : Except Refusal (List ρ) :=
  if rows.any (sameKey row) then .error (.rejected (.taken key)) else .ok (rows ++ [row])

/-! ## Inserts -/

/-- The columns of a run that are given, and those that have a default, in order. -/
def givenRun (attributes : Json.Fields) : Given RunColumn :=
  RunColumn.all.filterMap fun c =>
    match attributes.get? c.word with
    | some v => some (c, v)
    | none => c.default?.map fun v => (c, v)

/-- The names that are no column of the runs. -/
def unknownNames (attributes : Json.Fields) : List String :=
  (attributes.map (·.1)).filter fun name => !(RunColumn.all.map RunColumn.word).contains name

def insertRun (s : Store) (attributes : Json.Fields) : Except Refusal Store := do
  let unknown := unknownNames attributes
  if unknown ≠ [] then throw (.rejected (.unknownColumns unknown))
  let given ← checkTruths RunColumn.kind (givenRun attributes)
  let some rows := s.runs | throw (.rejected (.noTable .runs))
  let cells ← cellsFrom RunColumn.kind 1 given
  if let some c := nullColumn? RunColumn.all (cellAt cells) then
    throw (.rejected (.null .runs c.word))
  let rows ← addRow (fun a b => a.id == b.id) [(.runs, RunColumn.id.word)] rows
    (RunRow.ofCells (cellAt cells))
  return { s with runs := some rows }

def insertPost (s : Store) (id createAt : Json) : Except Refusal Store := do
  let some rows := s.posts | throw (.rejected (.noTable .posts))
  let cells ← cellsFrom PostColumn.kind 1 [(PostColumn.id, id), (.createAt, createAt)]
  if let some c := nullColumn? PostColumn.all (cellAt cells) then
    throw (.rejected (.null .posts c.word))
  let rows ← addRow (fun a b => a.id == b.id) [(.posts, PostColumn.id.word)] rows
    (PostRow.ofCells (cellAt cells))
  return { s with posts := some rows }

/-- Insert a link; unless that is deferred, its run and its post have to be there. -/
def insertLink (s : Store) (deferred : Bool) (incident post : Json) : Except Refusal Store := do
  let some rows := s.links | throw (.rejected (.noTable .links))
  let cells ← cellsFrom LinkColumn.kind 1 [(LinkColumn.incident, incident), (.post, post)]
  if let some c := nullColumn? LinkColumn.all (cellAt cells) then
    throw (.rejected (.null .links c.word))
  let row := LinkRow.ofCells (cellAt cells)
  let rows ← addRow (· == ·)
    [(.links, LinkColumn.incident.word), (.links, LinkColumn.post.word)] rows row
  let found := s.runRows.any (·.id == row.incident) && s.postRows.any (·.id == row.post)
  if !deferred && !found then throw (.rejected .dangling)
  return { s with links := some rows }

end Store

end IncidentBoard
