import IncidentBoard.Json.Reader
import IncidentBoard.ListQuery.Answer
import IncidentBoard.Provider

/-!
# Scenarios

Providers over scenario files. A file holds a section for incidents and one for people; a provider
reads its section once and answers from it, after a while if latency is wanted.

## Main definitions

* `Scenario.Files`, `Scenario.section` — the files, and a section of one of them.
* `Scenario.Incidents`, `Scenario.People` — the two providers, each with `open` and its calls.
-/

namespace IncidentBoard.Scenario

/-- What a file holds: text that has yet to be read, or a value. -/
inductive Content where
  | text (s : String)
  | value (v : Json)
  deriving Repr

abbrev Files := List (String × Content)

/-- Write files: those of a name that is there already are replaced. -/
def write (files new : Files) : Files :=
  new ++ files.filter fun f => (new.lookup f.1).isNone

/-- Text with every line end as a line feed. -/
def lineFeeds : List Char → List Char
  | '\r' :: '\n' :: rest => '\n' :: lineFeeds rest
  | '\r' :: rest => '\n' :: lineFeeds rest
  | c :: rest => c :: lineFeeds rest
  | [] => []

/-- The part of a path behind its last slash. -/
def lastPart (path : String) : String := (path.splitOn "/").getLastD ""

def load (files : Files) (name : String) : Except Failure Json :=
  match files.lookup name with
  | none => .error (.configuration
      s!"Unknown mock scenario '{name}' (looked for {lastPart name}.json)")
  | some (.value v) => .ok v
  | some (.text s) =>
    let text := lineFeeds s.toList
    match Json.parse (String.ofList text) with
    | .ok v => .ok v
    | .error (.tooManyDigits count) => .error (.foreign (.tooManyDigits count))
    | .error e => .error (.configuration
        s!"Mock scenario '{name}' is not valid JSON: {e.message text}")

/-- The value under a name, or a value for its absence. -/
def member (v : Json) (name : String) (absent : Json) : Except Failure Json :=
  match v with
  | .object fields => .ok ((Json.Fields.get? fields name).getD absent)
  | _ => .error (.foreign (.noMember v.typeWord "get"))

def section? (files : Files) (name part : String) : Except Failure Json := do
  member (← load files name) part (.object [])

/-- The values of a value that is walked through: items, names, characters, or octets. -/
def items (v : Json) : Except Failure (List Json) :=
  match v with
  | .list xs => .ok xs
  | .object fields => .ok (fields.map fun f => .text f.1)
  | .text s => .ok (s.toList.map fun c => .text c.toString)
  | .loose t => .ok (t.codes.map fun code => .ofCodes [code])
  | .bytes os => .ok (os.map fun o => .int o.toNat)
  | _ => .error (.foreign (.notIterable v.typeWord))

/-- Whether a value holds a text: as an item, as a name, or as a part. -/
def holds (v : Json) (id : String) : Except Failure Bool :=
  match v with
  | .list xs => .ok (xs.any fun x => match x with
      | .text s => s == id
      | .loose t => t.replaced == id
      | _ => false)
  | .object fields => .ok (Json.Fields.get? fields id).isSome
  | .text s => .ok (textOccursIn id s)
  | .loose t => .ok (textOccursIn id t.replaced)
  | _ => .error (.foreign (.notSearchable v.typeWord))

/-! ## Incidents -/

/-- The name of the section and of its provider. -/
def incidentsKey : String := "incidents"

def incidentsLatency : Nat := 300

/-- The incidents of a scenario, with the section that they were read from. -/
structure Incidents where
  files : Files
  name : String
  latency : Bool
  data : Json
  incidents : List Incident
  deriving Repr

namespace Incidents

def start (files : Files) (name : String) (latency : Bool) : Except Failure Incidents := do
  let data ← section? files name incidentsKey
  let raw ← items (← member data "incidents" (.list []))
  let incidents ← raw.mapM fun v => Failure.ofRejection (Incident.read v)
  return ⟨files, name, latency, data, incidents⟩

/-- Write files and read the section again; the incidents stay those read first. -/
def reload (s : Incidents) (new : Files) : Except Failure Unit × Incidents :=
  let s := { s with files := write s.files new }
  match section? s.files s.name incidentsKey with
  | .ok data => (.ok (), { s with data := data })
  | .error f => (.error f, s)

def find (s : Incidents) (id : String) : Except Failure Incident :=
  match s.incidents.find? (·.id == id) with
  | some x => .ok x
  | none => .error (.noIncident incidentsKey id)

/-- The details of an incident: its own fields, with those the section adds. -/
def details (s : Incidents) (id : String) : Except Failure IncidentDetail := do
  let x ← s.find id
  if ← holds (← member s.data "detail_unavailable" (.list [])) id then
    throw (.integration incidentsKey s!"Details for '{id}' are unavailable")
  let extra ← member (← member s.data "details" (.object [])) id (.object [])
  match extra with
  | .object fields =>
    Failure.ofRejection (IncidentDetail.read (.object (Json.Fields.merge x.toFields fields)))
  | _ => throw (.foreign (.notMapping extra.typeWord))

/-- The commanders of a team, in the order of their first incident. -/
def commandersOf (s : Incidents) (team : String) : List Commander :=
  let ids := (s.incidents.filter (·.team == team)).map (·.commander)
  (ids.foldl (fun seen id => if seen.contains id then seen else seen ++ [id]) []).map .ofId

/-- A reply after the latency of the scenario. -/
def reply {α : Type} (s : Incidents) (outcome : Except Failure α) : Reply α :=
  ⟨if s.latency then incidentsLatency else 0, outcome⟩

def provider : Provider Incidents where
  list s q := (s.reply (.ok (q.answer s.incidents)), s)
  commanders s team := (s.reply (.ok (s.commandersOf team)), s)
  detail s id := (s.reply (s.details id), s)
  summary s id := (s.reply (s.find id), s)

end Incidents

/-! ## People -/

def usersKey : String := "users"

def usersLatency : Nat := 100

/-- The people of a scenario. -/
structure People where
  files : Files
  name : String
  latency : Bool
  users : List (String × UserProfile)
  deriving Repr

namespace People

/-- The value of a raw profile under its id, which is asked for first. -/
def rawId (v : Json) : Except Failure Unit :=
  match v with
  | .object fields =>
    if (Json.Fields.get? fields "id").isSome then .ok () else .error (.foreign (.missingKey "id"))
  | .list _ => .error (.foreign .listIndex)
  | .text _ | .loose _ => .error (.foreign .textIndex)
  | _ => .error (.foreign (.notSubscriptable v.typeWord))

def readUser (v : Json) : Except Failure (String × UserProfile) := do
  rawId v
  let user ← Failure.ofRejection (UserProfile.read v)
  return (user.id, user)

/-- Read the people of a scenario; of two with one id the later counts. -/
def start (files : Files) (name : String) (latency : Bool) : Except Failure People := do
  let data ← section? files name usersKey
  let raw ← items (← member data "users" (.list []))
  let users ← raw.mapM readUser
  return ⟨files, name, latency, users.reverse⟩

/-- Write files and read the section again; the people stay those read first. -/
def reload (s : People) (new : Files) : Except Failure Unit × People :=
  let s := { s with files := write s.files new }
  ((section? s.files s.name usersKey).map fun _ => (), s)

/-- The calls answered from the scenario; whoever it does not hold is shown by id. -/
def directory : Directory People where
  profile s id :=
    (⟨if s.latency then usersLatency else 0, .ok ((s.users.lookup id).getD (.bare id))⟩, s)

end People

end IncidentBoard.Scenario
