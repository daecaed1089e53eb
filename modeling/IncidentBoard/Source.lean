import IncidentBoard.Provider.Remote
import IncidentBoard.Provider.Scenario
import IncidentBoard.Provider.Script
import IncidentBoard.Store.Query
import IncidentBoard.Store.Address

/-!
# Sources

The kinds of providers side by side, so that one place can hold whichever is in use.

## Main definitions

* `Source`, `Source.provider` — where incidents come from.
* `Roll`, `Roll.directory` — where people come from.
-/

namespace IncidentBoard

/-- Where incidents come from. -/
inductive Source where
  | script (s : Script) (calls : List Request)
  | scenario (s : Scenario.Incidents)
  | remote (s : Server)
  | stored (location : Store.Location) (s : Stored)
  deriving Repr

namespace Source

/-- A call on whichever provider is in use. -/
def call {α : Type} (s : Source)
    (ask : {σ : Type} → Provider σ → σ → Reply α × σ) : Reply α × Source :=
  match s with
  | .script s calls =>
    let (r, s, calls) := ask Script.provider.recorded (s, calls)
    (r, .script s calls)
  | .scenario s =>
    let (r, s) := ask Scenario.Incidents.provider s
    (r, .scenario s)
  | .remote s =>
    let (r, s) := ask Remote.incidents s
    (r, .remote s)
  | .stored location s =>
    let (r, s) := ask Stored.provider s
    (r, .stored location s)

def provider : Provider Source where
  list s q := s.call fun p s => p.list s q
  commanders s team := s.call fun p s => p.commanders s team
  detail s id := s.call fun p s => p.detail s id
  summary s id := s.call fun p s => p.summary s id

/-- The source with the store as it is in its file now. -/
def refresh (s : Source) (d : Databases) : Source :=
  match s with
  | .stored (.file name) _ => .stored (.file name) ⟨some (d.read name)⟩
  | _ => s

end Source

/-- Where people come from. -/
inductive Roll where
  | roster (r : Roster) (calls : List String)
  | scenario (s : Scenario.People)
  | remote (s : Server)
  deriving Repr

namespace Roll

def directory : Directory Roll where
  profile s id :=
    match s with
    | .roster r calls =>
      let (reply, r) := Roster.directory.profile r id
      (reply, .roster r (calls ++ [id]))
    | .scenario s =>
      let (reply, s) := Scenario.People.directory.profile s id
      (reply, .scenario s)
    | .remote s =>
      let (reply, s) := Remote.people.profile s id
      (reply, .remote s)

end Roll

def Source.backend : Backend Source Roll := ⟨Source.provider, Roll.directory⟩

end IncidentBoard
