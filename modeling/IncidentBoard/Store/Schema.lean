import IncidentBoard.Store.Cell

/-!
# Tables of the store

Three tables: runs of incidents, posts, and links from runs to the posts that report on them. Each
table has its columns in a fixed order, and a row is a cell for each column.

## Main definitions

* `RunColumn`, `PostColumn`, `LinkColumn` — the columns, with `word`, `kind` and `default?`.
* `RunRow`, `PostRow`, `LinkRow` — the rows.
* `Store` — the tables that exist, with their rows.
-/

namespace IncidentBoard

/-! ## Runs -/

/-- The columns of the table of runs. -/
inductive RunColumn where
  | id
  | name
  | description
  | isActive
  | commander
  | team
  | channel
  | createAt
  | endAt
  | deleteAt
  | activeStage
  | playbook
  | post
  deriving DecidableEq, Repr

namespace RunColumn

def word : RunColumn → String
  | .id => "ID"
  | .name => "Name"
  | .description => "Description"
  | .isActive => "IsActive"
  | .commander => "CommanderUserID"
  | .team => "TeamID"
  | .channel => "ChannelID"
  | .createAt => "CreateAt"
  | .endAt => "EndAt"
  | .deleteAt => "DeleteAt"
  | .activeStage => "ActiveStage"
  | .playbook => "PlaybookID"
  | .post => "PostID"

def kind : RunColumn → ColumnKind
  | .isActive => .boolean
  | .createAt | .endAt | .deleteAt | .activeStage => .integer
  | _ => .text

/-- The value of a column that is left out. -/
def default? : RunColumn → Option Json
  | .description | .channel | .playbook | .post => some (.text "")
  | .isActive => some (.bool true)
  | .endAt | .deleteAt | .activeStage => some (.int 0)
  | _ => none

def all : List RunColumn :=
  [.id, .name, .description, .isActive, .commander, .team, .channel, .createAt, .endAt, .deleteAt,
    .activeStage, .playbook, .post]

end RunColumn

/-- A run of an incident; its times are in milliseconds. -/
structure RunRow where
  id : Cell
  name : Cell
  description : Cell
  isActive : Cell
  commander : Cell
  team : Cell
  channel : Cell
  createAt : Cell
  endAt : Cell
  deleteAt : Cell
  activeStage : Cell
  playbook : Cell
  post : Cell
  deriving DecidableEq, Repr

namespace RunRow

def ofCells (c : RunColumn → Cell) : RunRow :=
  ⟨c .id, c .name, c .description, c .isActive, c .commander, c .team, c .channel, c .createAt,
    c .endAt, c .deleteAt, c .activeStage, c .playbook, c .post⟩

def get (r : RunRow) : RunColumn → Cell
  | .id => r.id
  | .name => r.name
  | .description => r.description
  | .isActive => r.isActive
  | .commander => r.commander
  | .team => r.team
  | .channel => r.channel
  | .createAt => r.createAt
  | .endAt => r.endAt
  | .deleteAt => r.deleteAt
  | .activeStage => r.activeStage
  | .playbook => r.playbook
  | .post => r.post

@[simp] theorem get_ofCells (c : RunColumn → Cell) (k : RunColumn) : (ofCells c).get k = c k := by
  cases k <;> rfl

def toCells (r : RunRow) : List Cell := RunColumn.all.map r.get

end RunRow

/-! ## Posts -/

/-- The columns of the table of posts. -/
inductive PostColumn where
  | id
  | createAt
  deriving DecidableEq, Repr

namespace PostColumn

def word : PostColumn → String
  | .id => "Id"
  | .createAt => "CreateAt"

def kind : PostColumn → ColumnKind
  | .id => .text
  | .createAt => .integer

def all : List PostColumn := [.id, .createAt]

end PostColumn

/-- A post and its time in milliseconds. -/
structure PostRow where
  id : Cell
  createAt : Cell
  deriving DecidableEq, Repr

namespace PostRow

def ofCells (c : PostColumn → Cell) : PostRow := ⟨c .id, c .createAt⟩

def get (r : PostRow) : PostColumn → Cell
  | .id => r.id
  | .createAt => r.createAt

@[simp] theorem get_ofCells (c : PostColumn → Cell) (k : PostColumn) : (ofCells c).get k = c k := by
  cases k <;> rfl

def toCells (r : PostRow) : List Cell := PostColumn.all.map r.get

end PostRow

/-! ## Links -/

/-- The columns of the table of links. -/
inductive LinkColumn where
  | incident
  | post
  deriving DecidableEq, Repr

namespace LinkColumn

def word : LinkColumn → String
  | .incident => "IncidentID"
  | .post => "PostID"

def kind : LinkColumn → ColumnKind := fun _ => .text

def all : List LinkColumn := [.incident, .post]

end LinkColumn

/-- A link from a run to a post that reports on it. -/
structure LinkRow where
  incident : Cell
  post : Cell
  deriving DecidableEq, Repr

namespace LinkRow

def ofCells (c : LinkColumn → Cell) : LinkRow := ⟨c .incident, c .post⟩

def get (r : LinkRow) : LinkColumn → Cell
  | .incident => r.incident
  | .post => r.post

@[simp] theorem get_ofCells (c : LinkColumn → Cell) (k : LinkColumn) : (ofCells c).get k = c k := by
  cases k <;> rfl

def toCells (r : LinkRow) : List Cell := LinkColumn.all.map r.get

end LinkRow

/-! ## The store -/

/-- A table of the store. -/
inductive Table where
  | runs
  | posts
  | links
  deriving DecidableEq, Repr

def Table.word : Table → String
  | .runs => "IR_Incident"
  | .posts => "Posts"
  | .links => "IR_StatusPosts"

/-- The rows of the tables that exist, oldest first. -/
structure Store where
  runs : Option (List RunRow)
  posts : Option (List PostRow)
  links : Option (List LinkRow)
  deriving DecidableEq, Repr

namespace Store

def bare : Store := ⟨none, none, none⟩

def createTables (s : Store) : Store :=
  ⟨some (s.runs.getD []), some (s.posts.getD []), some (s.links.getD [])⟩

def empty : Store := bare.createTables

/-- The rows of the runs, none where the table does not exist. -/
def runRows (s : Store) : List RunRow := s.runs.getD []

/-- The rows of the posts, none where the table does not exist. -/
def postRows (s : Store) : List PostRow := s.posts.getD []

/-- The rows of the links, none where the table does not exist. -/
def linkRows (s : Store) : List LinkRow := s.links.getD []

/-- Whether every link points to a run and to a post. -/
def linked (s : Store) : Bool :=
  s.linkRows.all fun l =>
    s.runRows.any (·.id == l.incident) && s.postRows.any (·.id == l.post)

def drop (s : Store) : Table → Store
  | .runs => { s with runs := none }
  | .posts => { s with posts := none }
  | .links => { s with links := none }

/-- Mark the run of an id as deleted. -/
def softDelete (s : Store) (id : String) : Store :=
  { s with runs := s.runs.map fun rows =>
      rows.map fun r => if r.id = .text id then { r with deleteAt := .int 1 } else r }

@[simp] theorem linked_empty : empty.linked = true := rfl

end Store

end IncidentBoard
