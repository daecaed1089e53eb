import IncidentBoard.Proofs.Incident.Written
import IncidentBoard.Proofs.Store.Inserted
import IncidentBoard.Proofs.Text.Like
import IncidentBoard.Store.Query

/-!
# Rows that are read

A row is read as an incident cell by cell: texts from texts or from octets that are one, the truth
value from any cell but null, and times from numbers that are whole in seconds. Rows whose cells are
of the types of their columns are always read, as their incident with its times in seconds.

## Main definitions

* `Cell.Spells`, `Cell.Tells` — what cells of texts and of times are read as.
* `RunRow.ReadAs`, `RunRow.toIncident_eq_ok_iff` — what a row is read as.
* `RunRow.WellTyped` — rows of the types of their columns.
* `RunRow.inMillis`, `Incident.inSeconds` — the incident of a row, and the same in seconds.
* `RunRow.WellTyped.toIncident_eq` — what reading such a row gives.
-/

namespace IncidentBoard

open IncidentBoard.Field

/-! ## Cells -/

namespace Cell

/-- The text that a cell is read as, the empty one for cells that are read as none. -/
def textValue (c : Cell) : String := c.toJson.asText?.getD ""

@[simp] theorem textValue_text (s : String) : (text s).textValue = s := rfl

/-- The whole number of a cell, zero for other cells. -/
def intValue : Cell → Int
  | .int n => n
  | _ => 0

def IsText (c : Cell) : Prop := c = .text c.textValue

def IsInt (c : Cell) : Prop := c = .int c.intValue

/-- A cell is read as a text: it is the text, or the octets of it in UTF-8. -/
def Spells (c : Cell) (s : String) : Prop := c.toJson.asText? = some s

/-- A cell of milliseconds is read as a whole number of seconds. -/
def Tells (c : Cell) (n : Int) : Prop := ∃ v, c.seconds = .ok v ∧ whole v = .ok n

variable {c : Cell}

theorem Spells.textValue_eq {s : String} (h : c.Spells s) : c.textValue = s := by
  rw [textValue, h]
  rfl

theorem IsText.spells (h : c.IsText) : c.Spells c.textValue := by
  rw [h]
  rfl

theorem IsInt.tells (h : c.IsInt) : c.Tells (c.intValue.fdiv millis) := by
  rw [h]
  exact ⟨_, rfl, rfl⟩

/-- Every cell but null is read as a truth value. -/
theorem truth_ok_iff {b : Bool} :
    Field.truth c.truth = .ok b ↔ c ≠ .null ∧ c.toJson.truthy = b := by
  cases c <;> simp [truth, Field.truth, flawed]

end Cell

/-- An incident with its times in seconds in place of milliseconds. -/
def Incident.inSeconds (x : Incident) : Incident :=
  { x with createdAt := x.createdAt.fdiv millis, endedAt := x.endedAt.fdiv millis }

/-! ## Rows -/

namespace RunRow

/-- A row is read as an incident: each cell is read as the field that stands for it. -/
structure ReadAs (r : RunRow) (x : Incident) : Prop where
  id : r.id.Spells x.id
  name : r.name.Spells x.name
  description : r.description.Spells x.description
  isActive : r.isActive ≠ .null ∧ r.isActive.toJson.truthy = x.isActive
  createAt : r.createAt.Tells x.createdAt
  endAt : r.endAt.Tells x.endedAt
  commander : r.commander.Spells x.commander
  team : r.team.Spells x.team
  channel : r.channel.Spells x.channel

variable {r : RunRow} {x : Incident}

/-- The fields of a row, its times being in seconds already. -/
def fieldsWith (r : RunRow) (created ended : Json) : Json.Fields :=
  Incident.fieldsOf r.id.toJson r.name.toJson r.description.toJson r.isActive.truth created ended
    r.commander.toJson r.team.toJson r.channel.toJson

theorem toFields_eq_ok_iff {fields : Json.Fields} : r.toFields = .ok fields ↔
    ∃ created ended, r.createAt.seconds = .ok created ∧ r.endAt.seconds = .ok ended ∧
      r.fieldsWith created ended = fields := by
  unfold toFields
  cases r.createAt.seconds <;> cases r.endAt.seconds <;>
    simp [bind, Except.bind, pure, Except.pure, fieldsWith, Incident.fieldsOf]

/-- What a row is read as stands in its fields, whatever fields follow them. -/
theorem readAs_iff {created ended : Json} (start : r.createAt.seconds = .ok created)
    (stop : r.endAt.seconds = .ok ended) (rest : Json.Fields) :
    r.ReadAs x ↔ Incident.readFields (r.fieldsWith created ended ++ rest) = .ok x := by
  have seconds {c : Cell} {v : Json} (h : c.seconds = .ok v) (n : Int) :
      c.Tells n ↔ whole v = .ok n := by
    simp [Cell.Tells, h]
  simp only [fieldsWith, Incident.readFields_ok_iff, text_ok_iff, Cell.truth_ok_iff,
    ← seconds start, ← seconds stop]
  constructor
  · rintro ⟨id, name, description, active, created, ended, commander, team, channel⟩
    exact ⟨id, name, description, active, created, ended, commander, team, channel⟩
  · rintro ⟨id, name, description, active, created, ended, commander, team, channel⟩
    exact ⟨id, name, description, active, created, ended, commander, team, channel⟩

/-- A row is read as an incident exactly when its cells are. -/
theorem toIncident_eq_ok_iff : r.toIncident = .ok x ↔ r.ReadAs x := by
  constructor
  · intro read
    obtain ⟨fields, listed, read⟩ := Store.bind_eq_ok_iff.1 read
    obtain ⟨created, ended, start, stop, rfl⟩ := toFields_eq_ok_iff.1 listed
    refine (readAs_iff start stop []).2 ?_
    rw [List.append_nil]
    exact Failure.ofRejection_of_eq_ok_iff.1 read
  · intro reads
    obtain ⟨created, start, -⟩ := reads.createAt
    obtain ⟨ended, stop, -⟩ := reads.endAt
    refine Store.bind_eq_ok_iff.2 ⟨_, toFields_eq_ok_iff.2 ⟨created, ended, start, stop, rfl⟩, ?_⟩
    refine Failure.ofRejection_of_eq_ok_iff.2 ?_
    have read := (readAs_iff start stop []).1 reads
    rwa [List.append_nil] at read

/-- The fields of a row that is read as an incident are read as its details, with posts behind
them. -/
theorem ReadAs.exists_fields (reads : r.ReadAs x) (posts : List StatusPost) :
    ∃ fields, r.toFields = .ok fields ∧
      IncidentDetail.read
        (.object (fields ++ [("status_posts", .list (posts.map StatusPost.toJson))])) =
        .ok (.ofPosts x posts) := by
  obtain ⟨created, start, -⟩ := reads.createAt
  obtain ⟨ended, stop, -⟩ := reads.endAt
  refine ⟨_, toFields_eq_ok_iff.2 ⟨created, ended, start, stop, rfl⟩, ?_⟩
  exact IncidentDetail.read_of_posts posts fun rest => (readAs_iff start stop rest).1 reads

/-! ## Typed rows -/

/-- Rows of texts, a truth value and times as whole numbers; their names are plain. -/
structure WellTyped (r : RunRow) : Prop where
  id : r.id.IsText
  name : r.name.IsText
  plain : Text.Plain r.name.textValue
  description : r.description.IsText
  isActive : r.isActive = .int 0 ∨ r.isActive = .int 1
  commander : r.commander.IsText
  team : r.team.IsText
  channel : r.channel.IsText
  createAt : r.createAt.IsInt
  endAt : r.endAt.IsInt
  deleteAt : r.deleteAt.IsInt

/-- The incident of a row, with its times in milliseconds. -/
def inMillis (r : RunRow) : Incident :=
  { id := r.id.textValue, name := r.name.textValue, description := r.description.textValue,
    isActive := r.isActive = .int 1, createdAt := r.createAt.intValue,
    endedAt := r.endAt.intValue, commander := r.commander.textValue, team := r.team.textValue,
    channel := r.channel.textValue }

/-- A typed row is read as its incident, in seconds. -/
theorem WellTyped.toIncident_eq (h : r.WellTyped) : r.toIncident = .ok r.inMillis.inSeconds := by
  have active : r.isActive ≠ .null ∧ r.isActive.toJson.truthy = decide (r.isActive = .int 1) := by
    rcases h.isActive with value | value <;> rw [value] <;> decide
  exact toIncident_eq_ok_iff.2 ⟨h.id.spells, h.name.spells, h.description.spells, active,
    h.createAt.tells, h.endAt.tells, h.commander.spells, h.team.spells, h.channel.spells⟩

end RunRow

theorem Store.mapM_eq_map {α β : Type} {f : α → Except Failure β} {g : α → β} {xs : List α}
    (h : ∀ x ∈ xs, f x = .ok (g x)) : xs.mapM f = .ok (xs.map g) := by
  induction xs with
  | nil => rfl
  | cons x rest ih =>
    rw [List.mapM_cons, h x (.head _), ih fun y hy => h y (.tail _ hy)]
    rfl

end IncidentBoard
