import IncidentBoard.Proofs.Incident.Written
import IncidentBoard.Proofs.Query.Refusal

/-!
# Normal forms

Values from outside are read leniently: a number may come as text, a truth value as a word. What
was read is written without any of that, so its written form reads back as the same value, and so do
written forms that take fields from one another. The details of an incident are read as an incident
and what is beyond it, so both views of a payload show the same incident.

## Main definitions

* `Field.NormalForm` — a reader and a written form in which everything that is read stands.
* `Field.Mixes` — written forms that may take fields from one another.
* `Field.readings_are_normal_forms` — queries, incidents, and details.
-/

namespace IncidentBoard

open IncidentBoard.Field

/-! ## Normal forms -/

namespace Field

variable {α : Type} {read : Json → Except Rejection α} {write : α → Json.Fields}

/-- What is read has a written form that reads back as it. With any one field taken from another
written form it is the written form of a value, and reads back as that. -/
structure NormalForm (read : Json → Except Rejection α) (write : α → Json.Fields) : Prop where
  again : ∀ {v x}, read v = .ok x → read (.object (write x)) = .ok x
  mixed : ∀ {v u x y name value}, read v = .ok x → read u = .ok y →
    (write y).get? name = some value →
    ∃ z, write z = (write x).put name value ∧ read (.object ((write x).put name value)) = .ok z

/-- A written form with a field of another one is a written form. -/
def Mixes (write : α → Json.Fields) : Prop :=
  ∀ x y {name value}, (write y).get? name = some value → ∃ z, write z = (write x).put name value

theorem NormalForm.of_roundTrip (roundTrip : ∀ x, read (.object (write x)) = .ok x)
    (mixes : Mixes write) : NormalForm read write where
  again _ := roundTrip _
  mixed {_ _ x y _ _} _ _ taken := by
    obtain ⟨z, written⟩ := mixes x y taken
    exact ⟨z, written, written ▸ roundTrip z⟩

end Field

/-! ## Queries -/

namespace ListQuery

/-- A query is read back from its record. -/
theorem read_toFields (q : ListQuery) : read (.object q.toFields) = .ok q := by
  have values : q.toFields = q.values.fields := rfl
  rw [values, read_fields]
  simp only [read_values, Reading.within, Reading.and_ok, Reading.of]
  rfl

theorem mixes_toFields : Mixes toFields := by
  intro q r name value taken
  have member := Json.Fields.mem_of_get? taken
  simp only [toFields, List.mem_cons, Prod.mk.injEq, List.not_mem_nil, or_false] at member
  rcases member with ⟨rfl, rfl⟩ | ⟨rfl, rfl⟩ | ⟨rfl, rfl⟩ | ⟨rfl, rfl⟩ | ⟨rfl, rfl⟩ | ⟨rfl, rfl⟩ |
    ⟨rfl, rfl⟩ | ⟨rfl, rfl⟩
  · exact ⟨{ q with team := r.team }, rfl⟩
  · exact ⟨{ q with page := r.page }, rfl⟩
  · exact ⟨{ q with perPage := r.perPage, perPage_pos := r.perPage_pos }, rfl⟩
  · exact ⟨{ q with sort := r.sort }, rfl⟩
  · exact ⟨{ q with order := r.order }, rfl⟩
  · exact ⟨{ q with search := r.search }, rfl⟩
  · exact ⟨{ q with status := r.status }, rfl⟩
  · exact ⟨{ q with commander := r.commander }, rfl⟩

end ListQuery

/-! ## Incidents -/

namespace Incident

/-- An incident takes a field from another one, whatever fields come after those of it. -/
theorem exists_put (x y : Incident) (rest : Json.Fields) {name : String} {value : Json}
    (taken : y.toFields.get? name = some value) :
    ∃ z : Incident, z.toFields ++ rest = (x.toFields ++ rest).put name value := by
  have member := Json.Fields.mem_of_get? taken
  simp only [toFields, List.mem_cons, Prod.mk.injEq, List.not_mem_nil, or_false] at member
  rcases member with ⟨rfl, rfl⟩ | ⟨rfl, rfl⟩ | ⟨rfl, rfl⟩ | ⟨rfl, rfl⟩ | ⟨rfl, rfl⟩ | ⟨rfl, rfl⟩ |
    ⟨rfl, rfl⟩ | ⟨rfl, rfl⟩ | ⟨rfl, rfl⟩
  · exact ⟨{ x with id := y.id }, rfl⟩
  · exact ⟨{ x with name := y.name }, rfl⟩
  · exact ⟨{ x with description := y.description }, rfl⟩
  · exact ⟨{ x with isActive := y.isActive }, rfl⟩
  · exact ⟨{ x with createdAt := y.createdAt }, rfl⟩
  · exact ⟨{ x with endedAt := y.endedAt }, rfl⟩
  · exact ⟨{ x with commander := y.commander }, rfl⟩
  · exact ⟨{ x with team := y.team }, rfl⟩
  · exact ⟨{ x with channel := y.channel }, rfl⟩

theorem mixes_toFields : Mixes toFields := by
  intro x y name value taken
  obtain ⟨z, written⟩ := x.exists_put y [] taken
  exact ⟨z, by simpa using written⟩

end Incident

/-! ## Details -/

namespace IncidentDetail

/-- What is beyond an incident is read back, after the fields of any incident. -/
theorem readExtras_toFields (d : IncidentDetail) : readExtras d.toFields = .ok d.extras := by
  have posts : listOf StatusPost.reader (.list (d.extras.statusPosts.map StatusPost.toJson)) =
      .ok d.extras.statusPosts := listOf_map StatusPost.reader_toJson _
  have listed : optional d.toFields "status_posts" [] (listOf StatusPost.reader) =
      .ok d.extras.statusPosts := Reading.within_eq_ok_iff.2 posts
  have named (s : Option String) (place : Place) :
      (orNull text (Json.ofText? s)).within place = .ok s :=
    Reading.within_eq_ok_iff.2 (ListQuery.orNull_ofText? s)
  have channel : optional d.toFields "channel_name" none (orNull text) =
      .ok d.extras.channelName := named _ _
  have display : optional d.toFields "channel_display_name" none (orNull text) =
      .ok d.extras.channelDisplayName := named _ _
  have team : optional d.toFields "team_name" none (orNull text) = .ok d.extras.teamName :=
    named _ _
  rw [readExtras, channel, display, team, listed]
  rfl

theorem read_toFields (d : IncidentDetail) : read (.object d.toFields) = .ok d :=
  read_object (d.incident.readFields_toFields _) d.readExtras_toFields

/-- What is beyond an incident takes a field from elsewhere. -/
theorem exists_put_extras (x : Incident) (e e' : IncidentExtras) {name : String} {value : Json}
    (taken : (extrasToFields e').get? name = some value) :
    ∃ z, x.toFields ++ extrasToFields z = (x.toFields ++ extrasToFields e).put name value := by
  have member := Json.Fields.mem_of_get? taken
  simp only [extrasToFields, List.mem_cons, Prod.mk.injEq, List.not_mem_nil, or_false] at member
  rcases member with ⟨rfl, rfl⟩ | ⟨rfl, rfl⟩ | ⟨rfl, rfl⟩ | ⟨rfl, rfl⟩ | ⟨rfl, rfl⟩ | ⟨rfl, rfl⟩
  · exact ⟨{ e with channelName := e'.channelName }, rfl⟩
  · exact ⟨{ e with channelDisplayName := e'.channelDisplayName }, rfl⟩
  · exact ⟨{ e with teamName := e'.teamName }, rfl⟩
  · exact ⟨{ e with memberCount := e'.memberCount }, rfl⟩
  · exact ⟨{ e with postCount := e'.postCount }, rfl⟩
  · exact ⟨{ e with statusPosts := e'.statusPosts }, rfl⟩

theorem mixes_toFields : Mixes toFields := by
  intro d d' name value taken
  rw [toFields, Json.Fields.get?_append, Option.or_eq_some_iff] at taken
  rcases taken with ofIncident | ⟨-, beyond⟩
  · obtain ⟨z, written⟩ := d.incident.exists_put d'.incident (extrasToFields d.extras) ofIncident
    exact ⟨⟨z, d.extras⟩, written⟩
  · obtain ⟨z, written⟩ := exists_put_extras d.incident d.extras d'.extras beyond
    exact ⟨⟨d.incident, z⟩, written⟩

/-- What is read as details is read as an incident, which is the incident of the details. -/
theorem incident_of_read {v : Json} {d : IncidentDetail} (ok : read v = .ok d) :
    Incident.read v = .ok d.incident := by
  cases v with
  | object fields =>
    cases fieldsRead : readFields fields with
    | error flaws => simp [read, object, fieldsRead, Reading.of] at ok
    | ok e =>
      obtain rfl : e = d := by simpa [read, object, fieldsRead, Reading.of] using ok
      simp only [readFields, Reading.and_eq_ok_iff] at fieldsRead
      obtain ⟨_, x, ⟨_, i, made, incident, rfl⟩, -, same⟩ := fieldsRead
      cases made
      subst same
      simp [Incident.read, object, incident, Reading.of]
  | _ => cases ok

end IncidentDetail

/-- Queries, incidents and details stand in their written forms, and both views of a payload show
the same incident. -/
theorem Field.readings_are_normal_forms :
    NormalForm ListQuery.read ListQuery.toFields ∧ NormalForm Incident.read Incident.toFields ∧
      NormalForm IncidentDetail.read IncidentDetail.toFields ∧
      ∀ v d, IncidentDetail.read v = .ok d → Incident.read v = .ok d.incident :=
  ⟨.of_roundTrip ListQuery.read_toFields ListQuery.mixes_toFields,
    .of_roundTrip Incident.read_toFields Incident.mixes_toFields,
    .of_roundTrip IncidentDetail.read_toFields IncidentDetail.mixes_toFields,
    fun _ _ => IncidentDetail.incident_of_read⟩

/-- A truth value given as a word, and numbers given as text, as a truth value and as a real one. -/
theorem Field.readings_are_normal_forms_of_lenient_details :
    let post : Json := .object [("post_id", .text "p1"), ("created_at", .text "7.0")]
    let fields : Json.Fields := [("id", .text "i1"), ("name", .text "Outage"),
      ("is_active", .text "Off"), ("created_at", .text " +1_000 "), ("ended_at", .bool true),
      ("num_members", .real (.ofInt 3)), ("status_posts", .list [post])]
    let x : Incident := ⟨"i1", "Outage", "", false, 1000, 1, "", "", ""⟩
    let d : IncidentDetail := ⟨x, ⟨none, none, none, 3, 0, [⟨"p1", 7⟩]⟩⟩
    IncidentDetail.read (.object fields) = .ok d ∧
      IncidentDetail.read (.object d.toFields) = .ok d ∧
      Incident.read (.object fields) = .ok x := by
  intro post fields x d
  have word : "Off".toLower = "off" := by decide +kernel
  have off : truth (.text "Off") = .ok false := by
    rw [truth, truthOfText, word]
    rfl
  have active : optional fields "is_active" true truth = .ok false :=
    Reading.within_eq_ok_iff.2 off
  have incident : Incident.readFields fields = .ok x := by
    rw [Incident.readFields, active]
    rfl
  have accepted : IncidentDetail.read (.object fields) = .ok d :=
    IncidentDetail.read_object incident rfl
  obtain ⟨-, -, details, views⟩ := readings_are_normal_forms
  exact ⟨accepted, details.again accepted, views _ _ accepted⟩

end IncidentBoard
