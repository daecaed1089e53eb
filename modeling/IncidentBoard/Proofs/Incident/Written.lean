import IncidentBoard.Incident

/-!
# Written incidents

The written form of an incident reads back as the incident, whatever fields come after it, and so
does a list of written posts.

## Main definitions

* `Incident.readFields_toFields`, `Incident.read_toFields` — incidents.
* `Field.itemsFrom_map`, `Field.listOf_map` — lists of written values.
* `IncidentDetail.read_object` — details, from an incident and what is beyond it.
* `IncidentDetail.read_of_posts` — an incident with nothing but posts beyond it.
-/

namespace IncidentBoard

open IncidentBoard.Field

/-! ## Lists -/

theorem Field.itemsFrom_map {α : Type} {read : Reader α} {write : α → Json}
    (h : ∀ x, read (write x) = .ok x) (i : Nat) (xs : List α) :
    itemsFrom read i (xs.map write) = .ok xs := by
  induction xs generalizing i with
  | nil => rfl
  | cons x rest ih =>
    rw [List.map_cons, itemsFrom, h, ih]
    rfl

/-- A list of written values reads back as the values. -/
theorem Field.listOf_map {α : Type} {read : Reader α} {write : α → Json}
    (h : ∀ x, read (write x) = .ok x) (xs : List α) :
    listOf read (.list (xs.map write)) = .ok xs :=
  itemsFrom_map h 0 xs

/-! ## Incidents -/

namespace Incident

theorem readFields_toFields (x : Incident) (rest : Json.Fields) :
    readFields (x.toFields ++ rest) = .ok x := rfl

theorem read_toFields (x : Incident) : read (.object x.toFields) = .ok x := rfl

/-- The fields of an incident with the values given for them. -/
def fieldsOf (id name description active created ended commander team channel : Json) :
    Json.Fields :=
  [("id", id), ("name", name), ("description", description), ("is_active", active),
    ("created_at", created), ("ended_at", ended), ("commander_user_id", commander),
    ("team_id", team), ("channel_id", channel)]

variable {id name description active created ended commander team channel : Json}

/-- The fields of an incident are read one by one, whatever fields follow them. -/
theorem readFields_ok_iff {rest : Json.Fields} {x : Incident} :
    readFields (fieldsOf id name description active created ended commander team channel ++ rest) =
        .ok x ↔
      text id = .ok x.id ∧ text name = .ok x.name ∧ text description = .ok x.description ∧
        truth active = .ok x.isActive ∧ whole created = .ok x.createdAt ∧
        whole ended = .ok x.endedAt ∧ text commander = .ok x.commander ∧ text team = .ok x.team ∧
        text channel = .ok x.channel := by
  change (Reading.and (Reading.and (Reading.and (Reading.and (Reading.and (Reading.and (Reading.and
    (Reading.and (Reading.and (.ok Incident.mk) ((text id).within _)) ((text name).within _))
    ((text description).within _)) ((truth active).within _)) ((whole created).within _))
    ((whole ended).within _)) ((text commander).within _)) ((text team).within _))
    ((text channel).within _) = .ok x) ↔ _
  constructor
  · simp only [Reading.and_eq_ok_iff, Reading.within_eq_ok_iff]
    rintro ⟨_, _, ⟨_, _, ⟨_, _, ⟨_, _, ⟨_, _, ⟨_, _, ⟨_, _, ⟨_, _, ⟨_, _, ⟨⟩, id, rfl⟩, name, rfl⟩,
      description, rfl⟩, active, rfl⟩, created, rfl⟩, ended, rfl⟩, commander, rfl⟩, team, rfl⟩,
      channel, rfl⟩
    exact ⟨id, name, description, active, created, ended, commander, team, channel⟩
  · rintro ⟨id, name, description, active, created, ended, commander, team, channel⟩
    rw [id, name, description, active, created, ended, commander, team, channel]
    rfl

end Incident

theorem StatusPost.reader_toJson (x : StatusPost) : reader x.toJson = .ok x := rfl

/-- Details are read from fields that hold an incident and what is beyond it. -/
theorem IncidentDetail.read_object {fields : Json.Fields} {x : Incident} {e : IncidentExtras}
    (incident : Incident.readFields fields = .ok x) (extras : readExtras fields = .ok e) :
    read (.object fields) = .ok ⟨x, e⟩ := by
  change (readFields fields).of model = _
  rw [readFields, incident, extras]
  rfl

/-- An incident with the posts that report on it and nothing else beyond the incident. -/
def IncidentDetail.ofPosts (x : Incident) (posts : List StatusPost) : IncidentDetail :=
  ⟨x, ⟨none, none, none, 0, 0, posts⟩⟩

/-- Fields that are read as an incident are read as its details, with the posts behind them. -/
theorem IncidentDetail.read_of_posts
    {id name description active created ended commander team channel : Json} {x : Incident}
    (posts : List StatusPost)
    (incident : ∀ rest, Incident.readFields (Incident.fieldsOf id name description active created
      ended commander team channel ++ rest) = .ok x) :
    read (.object (Incident.fieldsOf id name description active created ended commander team
      channel ++ [("status_posts", .list (posts.map StatusPost.toJson))])) =
      .ok (ofPosts x posts) := by
  let fields := Incident.fieldsOf id name description active created ended commander team channel ++
    [("status_posts", Json.list (posts.map StatusPost.toJson))]
  have listed : optional fields "status_posts" [] (listOf StatusPost.reader) = .ok posts := by
    change (listOf StatusPost.reader (.list (posts.map StatusPost.toJson))).within _ = _
    rw [listOf_map StatusPost.reader_toJson]
    rfl
  have extras : readExtras fields = .ok (ofPosts x posts).extras := by
    rw [readExtras, listed]
    rfl
  exact read_object (incident _) extras

end IncidentBoard
