import IncidentBoard.Store.Schema
import IncidentBoard.Failure

/-!
# Where a store is

The address of a store names a file, or memory that is its own for each connection. A file in a
folder that does not exist cannot be opened.

## Main definitions

* `Store.Location`, `Store.locate` — where a store is, and the location of an address.
* `Databases` — the stores in files.
* `Databases.open?`, `Databases.save` — reading and writing them.
-/

namespace IncidentBoard

namespace Store

/-- Where a store is. -/
inductive Location where
  | memory
  | file (name : String)
  | unreachable
  deriving DecidableEq, Repr

/-- Whether a character may stand in the name of a dialect. -/
def isDialectChar (c : Char) : Bool := c.isAlphanum || c == '_' || c == '+' || c.toNat ≥ 0x80

/-- The location of an address: a dialect, two slashes, a server and a database. -/
def locate (address : String) : Except Failure Location :=
  let cs := address.toList
  let dialect := cs.takeWhile isDialectChar
  match cs.drop dialect.length with
  | ':' :: '/' :: '/' :: rest =>
    if dialect = [] then .error (.foreign .badAddress)
    else
      let database := (rest.dropWhile (· ≠ '/')).drop 1
      let name := String.ofList (database.takeWhile (· ≠ '?'))
      if name = "" ∨ name = ":memory:" then .ok .memory
      else if name.toList.contains '/' then .ok .unreachable
      else .ok (.file name)
  | _ => .error (.foreign .badAddress)

end Store

abbrev Databases := List (String × Store)

namespace Databases

/-- The store of a file; a file that does not exist yet has no tables. -/
def read (d : Databases) (name : String) : Store := (d.lookup name).getD .bare

def save (d : Databases) (name : String) (s : Store) : Databases :=
  (name, s) :: d.filter (·.1 ≠ name)

/-- The store at a location; none where it cannot be opened. -/
def open? (d : Databases) : Store.Location → Option Store
  | .memory => some .bare
  | .file name => some (d.read name)
  | .unreachable => none

/-- Write the store at a location that is a file. -/
def put (d : Databases) (at' : Store.Location) (s : Store) : Databases :=
  match at' with
  | .file name => d.save name s
  | _ => d

end Databases

end IncidentBoard
