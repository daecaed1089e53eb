import IncidentBoard.Store.Insert
import IncidentBoard.Failure

/-!
# Transactions

Several inserts that are kept together or not at all. A step that fails ends its transaction,
unless the failure is caught; then only that step is undone. Links may be checked at the end
instead of at once.

## Main definitions

* `WriteStep`, `Scope` — a step, and the state inside a transaction.
* `Store.transaction` — a transaction and what becomes of it.
* `Store.write` — steps none of whose failures is caught.
* `Writing` — the units in which runs, posts and links are recorded.
-/

namespace IncidentBoard

/-- A step inside a transaction. -/
inductive WriteStep where
  | run (attributes : Json.Fields)
  | post (id createAt : Json)
  | link (incident post : Json)
  /-- From here on links are checked at the end. -/
  | deferLinks
  /-- The caller gives up. -/
  | giveUp (failure : Failure)
  deriving Repr

/-- The store inside a transaction, the tables written to, and whether links are checked late. -/
structure Scope where
  store : Store
  tables : List Table
  deferred : Bool
  deriving Repr

namespace Scope

def start (s : Store) : Scope := ⟨s, [], false⟩

/-- An insert into a table: the table counts as written to, or the failure names it. -/
def inserted (s : Scope) (table : Table) : Except Store.Refusal Store → Except Failure Scope
  | .ok store =>
    .ok { s with
      store := store
      tables := if s.tables.contains table then s.tables else s.tables ++ [table] }
  | .error (.rejected why) => .error (.persistence table.word why.message)
  | .error .tooLarge => .error (.foreign .integerTooLarge)
  | .error (.unencodable text) => .error (.foreign (.unencodable text))

def step (s : Scope) : WriteStep → Except Failure Scope
  | .run attributes => s.inserted .runs (s.store.insertRun attributes)
  | .post id createAt => s.inserted .posts (s.store.insertPost id createAt)
  | .link incident post => s.inserted .links (s.store.insertLink s.deferred incident post)
  | .deferLinks => .ok { s with deferred := true }
  | .giveUp f => .error f

/-- The name of everything that a transaction wrote to. -/
def tablesText (s : Scope) : String :=
  if s.tables = [] then "transaction" else String.intercalate ", " (s.tables.map Table.word)

/-- The end of a transaction: links that were not checked have to point to rows. -/
def commit (s : Scope) : Except Failure Store :=
  if s.deferred && !s.store.linked then
    .error (.persistence s.tablesText Store.Rejection.dangling.message)
  else .ok s.store

/-- Steps in turn, each with whether its failure is caught: the failures of the steps made, and
the scope after the last one unless one ended it. -/
def runAll (s : Scope) : List (WriteStep × Bool) → List (Option Failure) × Except Failure Scope
  | [] => ([], .ok s)
  | (step, caught) :: rest =>
    match s.step step with
    | .ok s =>
      let (made, last) := s.runAll rest
      (none :: made, last)
    | .error f =>
      if caught then
        let (made, last) := s.runAll rest
        (some f :: made, last)
      else ([some f], .error f)

end Scope

/-- What becomes of a transaction: the failures of its steps, the tables it wrote to if its last
step was made, and the failure that ended it. -/
structure Store.Report where
  made : List (Option Failure)
  tables : Option (List Table)
  failed : Option Failure
  deriving Repr

namespace Store

/-- A transaction: its report, and the store after it. A failure leaves the store as it was. -/
def transaction (s : Store) (steps : List (WriteStep × Bool)) : Report × Store :=
  let (made, last) := (Scope.start s).runAll steps
  match last with
  | .error f => (⟨made, none, some f⟩, s)
  | .ok scope =>
    match scope.commit with
    | .ok store => (⟨made, some scope.tables, none⟩, store)
    | .error f => (⟨made, some scope.tables, some f⟩, s)

/-- Steps as one unit: the store with all of them made, or the failure of one. -/
def write (s : Store) (steps : List WriteStep) : Except Failure Store :=
  let (report, store) := s.transaction (steps.map fun step => (step, false))
  match report.failed with
  | none => .ok store
  | some f => .error f

/-- The failure of a store whose file cannot be opened. -/
def unopened : Failure := .persistence "transaction" Rejection.unopened.message

end Store

/-! ## Units -/

/-- What is recorded as a unit. -/
inductive Writing where
  | run (attributes : Json.Fields)
  | post (id createAt : Json)
  | link (incident post : Json)
  /-- A post and its link to an incident. -/
  | statusUpdate (incident post createAt : Json)
  /-- A run and, where an id is given, its first post, at the time of the run if none is given. -/
  | runWithPost (attributes : Json.Fields) (post createAt : Json)
  deriving Repr

namespace Writing

def given (v : Json) : Bool :=
  match v with
  | .null => false
  | _ => true

def steps : Writing → List WriteStep
  | .run attributes => [.run attributes]
  | .post id createAt => [.post id createAt]
  | .link incident postId => [.link incident postId]
  | .statusUpdate incident postId createAt => [.post postId createAt, .link incident postId]
  | .runWithPost attributes postId createAt =>
    if given postId then
      let time := if given createAt then createAt
        else (attributes.get? RunColumn.createAt.word).getD (.int 0)
      [.run attributes, .post postId time,
        .link ((attributes.get? RunColumn.id.word).getD .null) postId]
    else [.run attributes]

end Writing

def Store.record (s : Store) (w : Writing) : Except Failure Store := s.write w.steps

end IncidentBoard
