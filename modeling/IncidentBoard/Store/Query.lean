import IncidentBoard.ListQuery.Answer
import IncidentBoard.Provider
import IncidentBoard.Store.Insert
import IncidentBoard.Text.Like

/-!
# Queries on the store

Incidents read from the tables: pages of a filtered and sorted list, commanders, one incident with
or without the posts that report on it. Times are turned from milliseconds into seconds, rounded
down.

## Main definitions

* `RunRow.toIncident` — the incident of a row.
* `Store.page`, `Store.commanders`, `Store.summary`, `Store.detail` — the four queries.
* `Stored`, `Stored.provider` — a store as a provider.
-/

namespace IncidentBoard

/-! ## Rows as incidents -/

/-- The greatest whole number below a real quotient, as a real: the remainder is taken exactly, the
quotient of the rest is rounded. -/
def Binary64.floorDivide (x : Binary64) (d : Nat) : Binary64 :=
  match x.ratio? with
  | none => .nan
  | some (n, m) =>
    -- the remainder of a truncating division, with the sign of the dividend
    let whole : Int := n.tdiv (m * d)
    let remainder : Int := n - whole * (m * d)
    let wrapped : Int := if remainder < 0 then remainder + m * d else remainder
    let rest := Binary64.ofRatio (n - remainder < 0) (n - remainder).natAbs m
    match rest.ratio? with
    | none => .nan
    | some (a, b) =>
      let quotient := Binary64.ofRatio (a < 0) a.natAbs (b * d)
      let quotient := if remainder < wrapped then
          match quotient.ratio? with
          | some (p, q) => Binary64.ofRatio (p - q < 0) (p - q).natAbs q
          | none => quotient
        else quotient
      match quotient.ratio? with
      | none => quotient
      | some (p, q) =>
        let floor := p.fdiv q
        -- rounding may have left the quotient just below the next whole number
        if q < 2 * (p - floor * q) then Binary64.ofInt (floor + 1) else Binary64.ofInt floor

def millis : Nat := 1000

def Cell.seconds : Cell → Except Failure Json
  | .int n => .ok (.int (n.fdiv millis))
  | .real x => .ok (.real (x.floorDivide millis))
  | c => .error (.foreign (.operands c.toJson.typeWord "int"))

/-- The truth value that a cell is read as. -/
def Cell.truth : Cell → Json
  | .null => .null
  | c => .bool c.toJson.truthy

namespace RunRow

def toFields (r : RunRow) : Except Failure Json.Fields := do
  let createdAt ← r.createAt.seconds
  let endedAt ← r.endAt.seconds
  return [("id", r.id.toJson), ("name", r.name.toJson), ("description", r.description.toJson),
    ("is_active", r.isActive.truth), ("created_at", createdAt), ("ended_at", endedAt),
    ("commander_user_id", r.commander.toJson), ("team_id", r.team.toJson),
    ("channel_id", r.channel.toJson)]

def toIncident (r : RunRow) : Except Failure Incident := do
  Failure.ofRejection (Incident.read (.object (← r.toFields)))

def isLive (r : RunRow) : Bool := r.deleteAt == .int 0 || r.deleteAt.compare (.int 0) == .eq

end RunRow

namespace Store

/-! ## Lists -/

/-- A text with its ASCII letters in lower case. -/
def lower (s : String) : String := String.ofList (s.toList.map Char.toLower)

/-- Octets with the ASCII letters among them in lower case. -/
def lowerOctets (os : List UInt8) : List UInt8 :=
  os.map fun o => if 65 ≤ o ∧ o ≤ 90 then o + 32 else o

/-- The codes of a name with its ASCII letters in lower case. -/
def nameCodes : Cell → List Nat
  | .text s => (lower s).toList.map Char.toNat
  | .bytes os => Like.codesOf (lowerOctets os)
  | _ => []

def octetsOf (s : String) : List UInt8 := s.toList.flatMap String.utf8EncodeChar

/-- The order of names, without regard to the case of ASCII letters. Octets count as text here, and
texts are in the order of their octets. -/
def compareNames : Cell → Cell → Ordering
  | .text s, .text t => compare (lower s) (lower t)
  | .text s, .bytes os => compare (octetsOf (lower s)) (lowerOctets os)
  | .bytes os, .text s => compare (lowerOctets os) (octetsOf (lower s))
  | .bytes os, .bytes ps => compare (lowerOctets os) (lowerOctets ps)
  | a, b => a.compare b

def pattern (term : String) : List Char := Like.containing (Text.lowercase term).toList

/-- Whether a row passes the filters of a query, the search apart. -/
def passes (q : ListQuery) (r : RunRow) : Bool :=
  r.team == .text q.team && r.isLive &&
    (match q.status with
      | some .active => r.isActive == .int 1
      | some .ended => r.isActive == .int 0
      | _ => true) &&
    (match ListQuery.given? q.commander with
      | some id => r.commander == .text id
      | none => true)

/-- Whether the name in a row matches the search of a query. -/
def matchesSearch (q : ListQuery) (r : RunRow) : Bool :=
  match ListQuery.given? q.search with
  | some term => Like.isMatch (pattern term) (nameCodes r.name)
  | none => true

def selects (q : ListQuery) (r : RunRow) : Bool := passes q r && matchesSearch q r

/-- How two rows compare in a column. -/
def compareBy (column : SortColumn) (a b : RunRow) : Ordering :=
  match column with
  | .name => compareNames a.name b.name
  | .status => a.isActive.compare b.isActive
  | .createdAt => a.createAt.compare b.createAt
  | .endedAt => a.endAt.compare b.endAt

/-- How two rows compare in the answer to a query. -/
def compareIn (q : ListQuery) (a b : RunRow) : Ordering :=
  (ListQuery.directed q.order (compareBy q.sort a b)).then (a.id.compare b.id)

/-- The rows that a query asks for, in order. -/
def matching (q : ListQuery) (rows : List RunRow) : List RunRow :=
  (rows.filter (selects q)).mergeSort fun a b => (compareIn q a b).isLE

def queryFailed (text : String) : Failure :=
  .integration "incidents" s!"Store query failed: (sqlite3.OperationalError) {text}"

/-- The rows of a table that has to exist. -/
def rowsOf {ρ : Type} (table : Table) : Option (List ρ) → Except Failure (List ρ)
  | some rows => .ok rows
  | none => .error (queryFailed (Rejection.noTable table).message)

/-- The greatest length of a pattern in octets. -/
def patternLimit : Nat := 50000

/-- Whether the pattern of a query is too long for the rows it has to be tried on. -/
def tooComplex (q : ListQuery) (rows : List RunRow) : Bool :=
  match ListQuery.given? q.search with
  | some term => patternLimit < (String.ofList (pattern term)).utf8ByteSize &&
      rows.any fun r => r.team == .text q.team && r.isLive
  | none => false

/-- The page of the list that a query asks for. -/
def page (s : Store) (q : ListQuery) : Except Failure IncidentsPage := do
  let rows ← rowsOf .runs s.runs
  if !Cell.fitsInt q.perPage || !Cell.fitsInt (q.page * q.perPage : Nat) then
    throw (.foreign .integerTooLarge)
  if tooComplex q rows then throw (queryFailed "LIKE or GLOB pattern too complex")
  let found := matching q rows
  let items ← (ListQuery.slice q.page q.perPage found).mapM RunRow.toIncident
  return ⟨items, found.length⟩

/-! ## Commanders -/

/-- The cells of a list in order, each once. -/
def distinct (cells : List Cell) : List Cell :=
  (cells.foldl (fun seen c => if seen.contains c then seen else seen ++ [c]) []).mergeSort
    fun a b => (a.compare b).isLE

/-- The commanders of the incidents of a team, in order. -/
def commanders (s : Store) (team : String) : Except Failure (List Commander) := do
  let rows ← rowsOf .runs s.runs
  let ids := (rows.filter fun r => r.team == .text team && r.isLive).map (·.commander)
  (distinct ids).mapM fun c =>
    Failure.ofRejection (Commander.read (.object [("user_id", c.toJson)]))

/-! ## One incident -/

/-- The row of a key that is not deleted. -/
def find (s : Store) (key : Cell) : Except Failure RunRow := do
  let rows ← rowsOf .runs s.runs
  match rows.find? fun r => r.id == key && r.isLive with
  | some r => .ok r
  | none => .error (.noIncident "incidents" key.toJson.plain)

/-- The incident of a key. -/
def incidentOf (s : Store) (key : Cell) : Except Failure Incident := do
  (← s.find key).toIncident

def summary (s : Store) (id : String) : Except Failure Incident := s.incidentOf (.text id)

/-- The posts linked to an incident, earliest first; of equal times by id. -/
def postsOf (posts : List PostRow) (links : List LinkRow) (id : String) : List PostRow :=
  let wanted := (links.filter (·.incident == .text id)).map (·.post)
  (posts.filter fun p => wanted.contains p.id).mergeSort fun a b =>
    ((a.createAt.compare b.createAt).then (a.id.compare b.id)).isLE

/-- A row of the posts as a post. -/
def statusPost (r : PostRow) : Except Failure StatusPost :=
  Failure.ofRejection
    (StatusPost.read (.object [("post_id", r.id.toJson), ("created_at", r.createAt.toJson)]))

/-- An incident with the posts that report on it. -/
def detail (s : Store) (id : String) : Except Failure IncidentDetail := do
  let row ← s.find (.text id)
  let posts ← rowsOf .posts s.posts
  let links ← rowsOf .links s.links
  let statusPosts ← (postsOf posts links id).mapM statusPost
  let fields ← row.toFields
  Failure.ofRejection (IncidentDetail.read (.object
    (fields ++ [("status_posts", .list (statusPosts.map StatusPost.toJson))])))

end Store

/-! ## The provider -/

/-- A store, or nothing where its file cannot be opened. -/
structure Stored where
  store : Option Store
  deriving Repr

namespace Stored

/-- A query on the store, answered at once. -/
def ask {α : Type} (s : Stored) (query : Store → Except Failure α) : Reply α :=
  .now (match s.store with
    | some store => query store
    | none => .error (Store.queryFailed Store.Rejection.unopened.message))

def provider : Provider Stored where
  list s q := (s.ask (·.page q), s)
  commanders s team := (s.ask (·.commanders team), s)
  detail s id := (s.ask (·.detail id), s)
  summary s id := (s.ask (·.summary id), s)

end Stored

end IncidentBoard
