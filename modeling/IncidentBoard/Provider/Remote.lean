import IncidentBoard.Http.Server
import IncidentBoard.Provider

/-!
# Providers over a server

Incidents and people that a server is asked for. Whatever the server answers becomes a value of
the model or a failure that names the provider.

## Main definitions

* `Remote.incidents`, `Remote.people` — the provider and the directory.
-/

namespace IncidentBoard.Remote

/-- The name of the provider of incidents in failures. -/
def incidentsKey : String := "incidents"

/-- The name of the directory of people in failures. -/
def usersKey : String := "users"

def apiRoot : String := "/plugins/com.mattermost.plugin-incident-response/api/v0"

def listPath : String := apiRoot ++ "/incidents"

def commandersPath : String := apiRoot ++ "/incidents/commanders"

def incidentPath (id : String) : String := apiRoot ++ "/incidents/" ++ id

/-- The path of the details of an incident. -/
def detailPath (id : String) : String := incidentPath id ++ "/details"

def userPath (id : String) : String := "/api/v4/users/" ++ id

/-- A failure about a value that is not what was asked for. -/
def malformed (key what text : String) : Failure := .integration key s!"Malformed {what}: {text}"

/-- The values of a value that is walked through: items, names, characters, or octets. -/
def walk (v : Json) : Except Foreign (List Json) :=
  match v with
  | .list items => .ok items
  | .object fields => .ok (fields.map fun f => .text f.1)
  | .text s => .ok (s.toList.map fun c => .text c.toString)
  | .loose t => .ok (t.codes.map fun code => .ofCodes [code])
  | .bytes os => .ok (os.map fun o => .int o.toNat)
  | _ => .error (.notIterable v.typeWord)

/-- Read every value, up to the first that is rejected. -/
def readAll {α : Type} (read : Json → Except Field.Rejection α) :
    List Json → Except Field.Rejection (List α)
  | [] => .ok []
  | v :: rest =>
    match read v with
    | .error r => .error r
    | .ok x => (readAll read rest).map (x :: ·)

/-- The page that an answer to a query holds. -/
def pageOf (v : Json) : Except Failure IncidentsPage :=
  let what := "incident list"
  match v with
  | .object fields =>
    let raw := (Json.Fields.get? fields "incidents").getD .null
    match walk (if raw.truthy then raw else .list []) with
    | .error f => .error (.foreign f)
    | .ok items =>
      match readAll Incident.read items with
      | .error r => .error (malformed incidentsKey what r.summary)
      | .ok incidents =>
        match (Field.optional fields "total_count" 0 Field.whole).of IncidentsPage.model with
        | .error r => .error (malformed incidentsKey what r.summary)
        | .ok total => .ok ⟨incidents, total⟩
  | _ => .error (malformed incidentsKey what (Foreign.noMember v.typeWord "get").message)

def commandersOf (v : Json) : Except Failure (List Commander) :=
  let what := "commander list"
  match walk v with
  | .error f => .error (malformed incidentsKey what f.message)
  | .ok items =>
    match readAll Commander.read items with
    | .error r => .error (malformed incidentsKey what r.summary)
    | .ok commanders => .ok commanders

/-- A value of a model, or a failure that names it. -/
def modelOf {α : Type} (key what : String) (read : Json → Except Field.Rejection α) (v : Json) :
    Except Failure α :=
  match read v with
  | .ok x => .ok x
  | .error r => .error (malformed key what r.summary)

/-- The outcome of a call: a value read, or what stands for a missing one. -/
def outcome {α : Type} (missing : Except Failure α) (read : Json → Except Failure α) :
    Except Server.Refusal Json → Except Failure α
  | .ok v => read v
  | .error .notFound => missing
  | .error (.failed f) => .error f

/-- The pairs of a query as they are sent. -/
def sentPairs (fields : Json.Fields) : String :=
  Percent.formPairs (fields.map fun (k, v) => (k, v.plain))

def incidents : Provider Server where
  list s q :=
    let (after, answer, s) := s.get incidentsKey listPath (some (sentPairs q.pairs))
    let missing := .error (.integration incidentsKey s!"Incident list endpoint missing: {listPath}")
    (⟨after, outcome missing pageOf answer⟩, s)
  commanders s team :=
    let query := sentPairs [("team_id", .text team)]
    let (after, answer, s) := s.get incidentsKey commandersPath (some query)
    (⟨after, outcome (.ok []) commandersOf answer⟩, s)
  detail s id :=
    let (after, answer, s) := s.get incidentsKey (detailPath id) none
    let missing := .error (.noIncident incidentsKey id)
    let read := modelOf incidentsKey "incident detail" IncidentDetail.read
    (⟨after, outcome missing read answer⟩, s)
  summary s id :=
    let (after, answer, s) := s.get incidentsKey (incidentPath id) none
    let missing := .error (.noIncident incidentsKey id)
    let read := modelOf incidentsKey "incident" Incident.read
    (⟨after, outcome missing read answer⟩, s)

/-- People of a server; whoever it does not know is shown by id. -/
def people : Directory Server where
  profile s id :=
    let (after, answer, s) := s.get usersKey (userPath id) none
    let read := modelOf usersKey "user profile" UserProfile.read
    (⟨after, outcome (.ok (.bare id)) read answer⟩, s)

end IncidentBoard.Remote
