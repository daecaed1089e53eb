import IncidentBoard.Http.Server
import IncidentBoard.ListQuery.Answer
import IncidentBoard.Provider

/-!
# Scripted providers

Providers that answer each call by a plan: after a time, with a failure or with a value that is
read as the model asked for. A list call may also be answered from a list of incidents.

## Main definitions

* `Plan` — a time, and a failure or a value.
* `Script`, `Roster` — the plans for calls on incidents, and those for calls on people.
* `Script.provider`, `Roster.directory`.
-/

namespace IncidentBoard

/-- How a call is answered: after some milliseconds, with a value or a failure if either is
given. -/
structure Plan where
  after : Nat
  outcome : Option (Except Failure Json)
  deriving Repr

def Plan.default : Plan := ⟨0, none⟩

/-- The reply that a plan gives; `read` takes its value, `absent` stands for none. -/
def Plan.reply {α : Type} (p : Plan) (read : Json → Except Failure α) (absent : Except Failure α) :
    Reply α :=
  ⟨p.after, match p.outcome with
    | some (.ok v) => read v
    | some (.error f) => .error f
    | none => absent⟩

/-- Take the next of the plans for an id. -/
def Plan.take (id : String) :
    List (String × List Plan) → Option Plan × List (String × List Plan)
  | [] => (none, [])
  | (i, plans) :: rest =>
    if i = id then
      match nextPlan plans with
      | some (p, plans) => (some p, (i, plans) :: rest)
      | none => (some .default, (i, plans) :: rest)
    else
      let (p, rest) := Plan.take id rest
      (p, (i, plans) :: rest)

/-- A list of incidents, and the plans for each kind of call. -/
structure Script where
  incidents : List Incident
  list : List Plan
  commanders : List Plan
  detail : List (String × List Plan)
  summary : List (String × List Plan)
  deriving Repr

namespace Script

/-- Commanders from a value; what is no list has none. -/
def readCommanders (v : Json) : Except Failure (List Commander) :=
  match v with
  | .list items => items.mapM fun i => Failure.ofRejection (Commander.read i)
  | _ => .error (.foreign (.notIterable v.typeWord))

/-- The failure for an id without a plan. -/
def unplanned {α : Type} (id : String) : Except Failure α := .error (.noIncident "incidents" id)

def provider : Provider Script where
  list s q :=
    let (p, plans) := (nextPlan s.list).getD (.default, [])
    (p.reply (fun v => Failure.ofRejection (IncidentsPage.read v)) (.ok (q.answer s.incidents)),
      { s with list := plans })
  commanders s _ :=
    let (p, plans) := (nextPlan s.commanders).getD (.default, [])
    (p.reply readCommanders (.ok []), { s with commanders := plans })
  detail s id :=
    let (p, plans) := Plan.take id s.detail
    let read := fun v => Failure.ofRejection (IncidentDetail.read v)
    (match p with
      | some p => p.reply read (read .null)
      | none => .now (unplanned id),
      { s with detail := plans })
  summary s id :=
    let (p, plans) := Plan.take id s.summary
    let read := fun v => Failure.ofRejection (Incident.read v)
    (match p with
      | some p => p.reply read (read .null)
      | none => .now (unplanned id),
      { s with summary := plans })

end Script

/-- The plans for people. -/
structure Roster where
  users : List (String × List Plan)
  deriving Repr

namespace Roster

/-- The calls answered by the plans; whoever has none is shown by id. -/
def directory : Directory Roster where
  profile s id :=
    let (p, plans) := Plan.take id s.users
    let read := fun v => Failure.ofRejection (UserProfile.read v)
    (match p with
      | some p => p.reply read (read .null)
      | none => .now (.ok (.bare id)),
      { s with users := plans })

end Roster

end IncidentBoard
