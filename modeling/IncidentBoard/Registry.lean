import IncidentBoard.Settings
import IncidentBoard.Source

/-!
# The registry of providers

One provider for each category, made when it is first asked for and kept until the registry is
reset. The settings choose the kind of provider. What cannot be made is not kept.

## Main definitions

* `World` — the files and stores that providers are made from.
* `Category`, `Instance`, `Handle` — what can be asked for, a provider, and one made by a registry.
* `Registry`, `Registry.get`, `Registry.reset`.
-/

namespace IncidentBoard

/-- What providers are made from: scenario files, and stores in files. -/
structure World where
  scenarios : Scenario.Files
  databases : Databases
  deriving Repr

/-- The categories of providers. -/
inductive Category where
  | incidents
  | users
  deriving DecidableEq, Repr

namespace Category

def word : Category → String
  | .incidents => "incidents"
  | .users => "users"

def ofWord? (s : String) : Option Category :=
  [Category.incidents, .users].find? (·.word == s)

@[simp] theorem ofWord?_word (c : Category) : ofWord? c.word = some c := by cases c <;> rfl

end Category

/-- A provider of either category. -/
inductive Instance where
  | incidents (s : Source)
  | users (r : Roll)
  deriving Repr

def Instance.category : Instance → Category
  | .incidents _ => .incidents
  | .users _ => .users

/-- A provider with the number under which it was made. -/
structure Handle where
  serial : Nat
  made : Instance
  deriving Repr

/-- The settings, the providers kept, and the number of the next provider. -/
structure Registry where
  settings : Settings
  kept : List (Category × Handle)
  next : Nat
  deriving Repr

namespace Registry

/-- A registry that has made nothing; its providers are numbered from `next` on. -/
def start (settings : Settings) (next : Nat) : Registry := ⟨settings, [], next⟩

/-- The kinds of providers. -/
inductive Kind where
  | scenario
  | remote
  | stored
  deriving DecidableEq, Repr

/-- The kinds that a category offers, by mode. -/
def kinds : Category → List (String × Kind)
  | .incidents => [("mock", .scenario), ("live", .remote), ("sql", .stored)]
  | .users => [("mock", .scenario), ("live", .remote)]

/-- Open the store of the settings and create its tables. -/
def openStore (w : World) (s : Settings) : Except Failure (Source × World) := do
  let location ← Store.locate s.databaseUrl
  match w.databases.open? location with
  | none => throw (.foreign .cannotOpen)
  | some store =>
    let store := store.createTables
    return (.stored location ⟨some store⟩,
      { w with databases := w.databases.put location store })

def make (w : World) (s : Settings) : Category → Kind → Except Failure (Instance × World)
  | .incidents, .scenario =>
    (Scenario.Incidents.start w.scenarios s.scenario s.latency).map fun p =>
      (.incidents (.scenario p), w)
  | .incidents, .remote => .ok (.incidents (.remote (.start s.apiBase s.apiToken none)), w)
  | .incidents, .stored => (openStore w s).map fun (p, w) => (.incidents p, w)
  | .users, .scenario =>
    (Scenario.People.start w.scenarios s.scenario s.latency).map fun p => (.users (.scenario p), w)
  | .users, _ => .ok (.users (.remote (.start s.apiBase s.apiToken none)), w)

/-- Make a provider for a category that has none, and keep it. -/
def resolve (r : Registry) (w : World) (c : Category) :
    Except Failure (Handle × Registry × World) :=
  let mode := r.settings.mode c.word
  match (kinds c).lookup mode with
  | none => .error (.noProvider c.word (some mode))
  | some kind =>
    (make w r.settings c kind).map fun (made, w) =>
      let handle : Handle := ⟨r.next, made⟩
      (handle, { r with kept := (c, handle) :: r.kept, next := r.next + 1 }, w)

/-- The provider of a category: the one kept, or a new one. -/
def get (r : Registry) (w : World) (c : Category) : Except Failure (Handle × Registry × World) :=
  match r.kept.lookup c with
  | some handle => .ok (handle, r, w)
  | none => r.resolve w c

/-- The provider of a category given by its word. -/
def getNamed (r : Registry) (w : World) (word : String) :
    Except Failure (Handle × Registry × World) :=
  match Category.ofWord? word with
  | some c => r.get w c
  | none => .error (.noProvider word none)

def reset (r : Registry) : Registry := { r with kept := [] }

def incidents (r : Registry) (w : World) : Except Failure (Nat × Source × Registry × World) := do
  let (h, r, w) ← r.get w .incidents
  match h.made with
  | .incidents s => return (h.serial, s, r, w)
  | .users _ => throw (.noProvider Category.incidents.word none)

def users (r : Registry) (w : World) : Except Failure (Nat × Roll × Registry × World) := do
  let (h, r, w) ← r.get w .users
  match h.made with
  | .users s => return (h.serial, s, r, w)
  | .incidents _ => throw (.noProvider Category.users.word none)

/-- The registry with every store as it is in its file now. -/
def refresh (r : Registry) (d : Databases) : Registry :=
  { r with kept := r.kept.map fun (c, h) => (c, match h.made with
      | .incidents s => { h with made := .incidents (s.refresh d) }
      | .users _ => h) }

end Registry

end IncidentBoard
