import IncidentBoard.Proofs.Json.RoundTrip
import IncidentBoard.Provider.Remote

/-!
# What a server may do

Whatever a server answers, and however a connection breaks, a call ends with a value of its model
or with a failure that names its provider. One kind of answer gets past that: a list of incidents
that is a number or true, which nothing can be walked through.

## Main definitions

* `Server.Outcome.OfServer`, `Server.outcomeOf` — what a server or a broken connection brings
  about, and the outcome of a request.
* `Remote.Contained` — how a call may end.
* `Remote.AnswersBare` — the answers that get past.
* `Remote.calls_contained` — every call is contained, but for those answers.
-/

namespace IncidentBoard

namespace Server

/-- A response, or a connection that breaks. -/
def Outcome.OfServer : Outcome → Prop
  | .response _ _ | .unreachable _ => True
  | .raised _ => False

/-- The outcome of a request. -/
def outcomeOf (s : Server) (path : String) (query : Option String) : Outcome :=
  (s.send path query).1.outcome

/-- A server that has an answer to one request and knows nothing else. -/
def only (base : Url) (path : String) (query : Option String) (outcome : Outcome) : Server :=
  ⟨base, "", some [((base.below path query).route, [⟨0, outcome⟩])], []⟩

@[simp] theorem outcomeOf_only (base : Url) (path : String) (query : Option String)
    (outcome : Outcome) : (only base path query outcome).outcomeOf path query = outcome := by
  simp [outcomeOf, only, send, take, nextPlan]

end Server

namespace Remote

variable {α : Type} {key path : String} {v raw : Json} {o : Server.Outcome}

/-! ## Values -/

/-- How a call to a provider may end: with a value, or with a failure that names the provider. -/
inductive Contained (key : String) : Except Failure α → Prop
  | value (x : α) : Contained key (.ok x)
  | integration (text : String) : Contained key (.error (.integration key text))
  | noIncident (id : String) : Contained key (.error (.noIncident key id))

theorem modelOf_contained (what : String) (read : Json → Except Field.Rejection α) (v : Json) :
    Contained key (modelOf key what read v) := by
  unfold modelOf
  cases read v with
  | ok x => exact .value x
  | error r => exact .integration _

theorem commandersOf_contained (v : Json) : Contained incidentsKey (commandersOf v) := by
  unfold commandersOf
  cases walk v with
  | error f => exact .integration _
  | ok items =>
    dsimp only
    cases readAll Commander.read items with
    | error r => exact .integration _
    | ok commanders => exact .value commanders

/-- A value that counts as given and that nothing can be walked through: a number or true. -/
def IsBare : Json → Prop
  | .bool b => b = true
  | .int n => n ≠ 0
  | .real x => x.isZero = false
  | _ => False

theorem walk_of_isBare (bare : IsBare raw) :
    raw.truthy = true ∧ walk raw = .error (.notIterable raw.typeWord) := by
  cases raw with
  | bool b => exact ⟨bare, rfl⟩
  | int n =>
    have nonzero : n ≠ 0 := bare
    exact ⟨by simp [Json.truthy, nonzero], rfl⟩
  | real x =>
    have nonzero : x.isZero = false := bare
    exact ⟨by simp [Json.truthy, nonzero], rfl⟩
  | _ => exact bare.elim

/-- Every other value that counts as given can be walked through. -/
theorem walk_of_not_isBare (other : ¬ IsBare raw) :
    ∃ items, walk (if raw.truthy then raw else .list []) = .ok items := by
  cases raw with
  | null => exact ⟨_, rfl⟩
  | bool b =>
    have off : b = false := by simpa [IsBare] using other
    exact ⟨[], by simp [Json.truthy, off, walk]⟩
  | int n =>
    have zero : n = 0 := by simpa [IsBare] using other
    exact ⟨[], by simp [Json.truthy, zero, walk]⟩
  | real x =>
    have zero : x.isZero = true := by simpa [IsBare] using other
    exact ⟨[], by simp [Json.truthy, zero, walk]⟩
  | text s => cases empty : (Json.text s).truthy <;> exact ⟨_, rfl⟩
  | loose t => exact ⟨_, rfl⟩
  | bytes os => cases empty : (Json.bytes os).truthy <;> exact ⟨_, rfl⟩
  | list items => cases empty : (Json.list items).truthy <;> exact ⟨_, rfl⟩
  | object fields => cases empty : (Json.object fields).truthy <;> exact ⟨_, rfl⟩

/-- A value whose list of incidents cannot be walked through. -/
def ListsBare (v raw : Json) : Prop := v.get? "incidents" = some raw ∧ IsBare raw

theorem pageOf_of_listsBare (bare : ListsBare v raw) :
    pageOf v = .error (.foreign (.notIterable raw.typeWord)) := by
  obtain ⟨found, bare⟩ := bare
  obtain ⟨given, stuck⟩ := walk_of_isBare bare
  cases v with
  | object fields =>
    have found : Json.Fields.get? fields "incidents" = some raw := found
    simp [pageOf, found, given, stuck]
  | _ => cases found

theorem pageOf_contained (other : ∀ raw, ¬ ListsBare v raw) :
    Contained incidentsKey (pageOf v) := by
  cases v with
  | object fields =>
    have walkable : ¬ IsBare ((Json.Fields.get? fields "incidents").getD .null) := by
      cases found : Json.Fields.get? fields "incidents" with
      | none => exact id
      | some raw => exact fun bare => other raw ⟨found, bare⟩
    obtain ⟨items, walked⟩ := walk_of_not_isBare walkable
    simp only [pageOf, walked]
    cases readAll Incident.read items with
    | error r => exact .integration _
    | ok incidents =>
      dsimp only
      cases (Field.optional fields "total_count" 0 Field.whole).of IncidentsPage.model with
      | error r => exact .integration _
      | ok total => exact .value _
  | _ => exact .integration _

/-! ## Outcomes -/

/-- An answer without an error whose list of incidents cannot be walked through. -/
def AnswersBare (o : Server.Outcome) (raw : Json) : Prop :=
  ∃ status body v, o = .response status body ∧ ¬ (400 ≤ status ∧ status ≤ 599) ∧
    body.json? = some v ∧ ListsBare v raw

/-- The value of an answer comes from a response without an error; whatever else a server brings
about is nothing found, or a failure that names the provider. -/
theorem valueOf_cases (key path : String) (server : o.OfServer) :
    (∃ status body v, o = .response status body ∧ ¬ (400 ≤ status ∧ status ≤ 599) ∧
      body.json? = some v ∧ Server.valueOf key path o = .ok v) ∨
    Server.valueOf key path o = .error .notFound ∨
    ∃ text, Server.valueOf key path o = .error (.failed (.integration key text)) := by
  cases o with
  | raised f => exact server.elim
  | unreachable text => exact .inr (.inr ⟨_, rfl⟩)
  | response status body =>
    by_cases missing : status = 404
    · exact .inr (.inl (by simp [Server.valueOf, missing]))
    · by_cases refused : 400 ≤ status ∧ status ≤ 599
      · exact .inr (.inr ⟨_, by simp only [Server.valueOf, missing, refused, if_false]; rfl⟩)
      · cases read : body.json? with
        | none =>
          refine .inr (.inr ⟨s!"GET {path} returned invalid JSON", ?_⟩)
          simp only [Server.valueOf, missing, refused, if_false, read]
        | some v =>
          refine .inl ⟨status, body, v, rfl, refused, read, ?_⟩
          simp only [Server.valueOf, missing, refused, if_false, read]

/-- A call is contained if what stands for a missing value is, and what is read from a value. -/
theorem outcome_contained {missing : Except Failure α} {read : Json → Except Failure α}
    (server : o.OfServer) (absent : Contained key missing)
    (present : ∀ status body v, o = .response status body → ¬ (400 ≤ status ∧ status ≤ 599) →
      body.json? = some v → Contained key (read v)) :
    Contained key (outcome missing read (Server.valueOf key path o)) := by
  rcases valueOf_cases key path server with
    ⟨status, body, v, response, fine, json, value⟩ | none | ⟨text, failed⟩
  · rw [value]
    exact present status body v response fine json
  · rw [none]
    exact absent
  · rw [failed]
    exact .integration text

/-! ## Calls -/

theorem list_outcome (s : Server) (q : ListQuery) :
    (incidents.list s q).1.outcome = outcome
      (.error (.integration incidentsKey s!"Incident list endpoint missing: {listPath}")) pageOf
      (Server.valueOf incidentsKey listPath (s.outcomeOf listPath (some (sentPairs q.pairs)))) :=
  rfl

theorem detail_outcome (s : Server) (id : String) :
    (incidents.detail s id).1.outcome = outcome (.error (.noIncident incidentsKey id))
      (modelOf incidentsKey "incident detail" IncidentDetail.read)
      (Server.valueOf incidentsKey (detailPath id) (s.outcomeOf (detailPath id) none)) :=
  rfl

/-- A list of incidents that cannot be walked through fails as such. -/
theorem list_of_answersBare {s : Server} {q : ListQuery}
    (bare : AnswersBare (s.outcomeOf listPath (some (sentPairs q.pairs))) raw) :
    (incidents.list s q).1.outcome = .error (.foreign (.notIterable raw.typeWord)) := by
  obtain ⟨status, body, v, answer, fine, json, bare⟩ := bare
  have found : status ≠ 404 := by omega
  rw [list_outcome, answer]
  simp only [Server.valueOf, found, fine, if_false, json]
  exact pageOf_of_listsBare bare

/-- Whatever a server answers and however its connections break, the calls for commanders, for
details, for summaries and for people are contained. The call for a list is contained unless the
answer holds a list that cannot be walked through, and then it fails with the type of that. -/
theorem calls_contained (s : Server) :
    (∀ q : ListQuery,
      let o := s.outcomeOf listPath (some (sentPairs q.pairs))
      o.OfServer → ((∀ raw, ¬ AnswersBare o raw) →
          Contained incidentsKey (incidents.list s q).1.outcome) ∧
        ∀ raw, AnswersBare o raw → (incidents.list s q).1.outcome =
          .error (.foreign (.notIterable raw.typeWord))) ∧
    (∀ team, (s.outcomeOf commandersPath (some (sentPairs [("team_id", .text team)]))).OfServer →
      Contained incidentsKey (incidents.commanders s team).1.outcome) ∧
    (∀ id, (s.outcomeOf (detailPath id) none).OfServer →
      Contained incidentsKey (incidents.detail s id).1.outcome) ∧
    (∀ id, (s.outcomeOf (incidentPath id) none).OfServer →
      Contained incidentsKey (incidents.summary s id).1.outcome) ∧
    ∀ id, (s.outcomeOf (userPath id) none).OfServer →
      Contained usersKey (people.profile s id).1.outcome := by
  refine ⟨fun q => ?_, fun team server => ?_, fun id server => ?_, fun id server => ?_,
    fun id server => ?_⟩
  · intro o server
    refine ⟨fun other => ?_, fun raw bare => list_of_answersBare bare⟩
    refine outcome_contained server (.integration _) fun status body v response fine json => ?_
    exact pageOf_contained fun raw bare => other raw ⟨status, body, v, response, fine, json, bare⟩
  · exact outcome_contained server (.value []) fun _ _ v _ _ _ => commandersOf_contained v
  · exact outcome_contained server (.noIncident id) fun _ _ v _ _ _ => modelOf_contained _ _ v
  · exact outcome_contained server (.noIncident id) fun _ _ v _ _ _ => modelOf_contained _ _ v
  · exact outcome_contained server (.value (UserProfile.bare id))
      fun _ _ v _ _ _ => modelOf_contained _ _ v

/-- The text `{"incidents":5}` in answer to a call for a list gets past. -/
theorem list_escapes_of_number :
    let q : ListQuery := .first "t" 15 (by decide)
    let body : Server.Body := .octets ("\x7b\"incidents\":5\x7d".toList.map Char.toNat)
    let s : Server := .only ⟨"http", "h", none, "/", none⟩ listPath (some (sentPairs q.pairs))
      (.response 200 body)
    (s.outcomeOf listPath (some (sentPairs q.pairs))).OfServer ∧
      (incidents.list s q).1.outcome = .error (.foreign (.notIterable "int")) ∧
      ¬ Contained incidentsKey (incidents.list s q).1.outcome := by
  intro q body s
  have answer : s.outcomeOf listPath (some (sentPairs q.pairs)) = .response 200 body :=
    Server.outcomeOf_only _ _ _ _
  clear_value s
  have exact : (Json.object [("incidents", .int 5)]).Exact :=
    ⟨by simp, show Json.Short 5 by decide, trivial⟩
  have written : body = .octets (Json.object [("incidents", .int 5)]).octets := by
    rw [Json.octets, Json.toList_write_object, Json.fieldsText_one, Json.writeText_append]
    exact congrArg Server.Body.octets (by decide +kernel)
  have json : body.json? = some (.object [("incidents", .int 5)]) :=
    written ▸ Json.ofOctets?_octets exact
  have bare : AnswersBare (s.outcomeOf listPath (some (sentPairs q.pairs))) (.int 5) :=
    ⟨200, body, _, answer, by decide, json, rfl, by simp [IsBare]⟩
  have escapes := list_of_answersBare bare
  refine ⟨by rw [answer]; trivial, escapes, fun contained => ?_⟩
  rw [escapes] at contained
  cases contained

/-- The details of an incident are asked for, and octets come back that are no text. -/
theorem calls_contained_of_broken_octets :
    let s : Server := .only ⟨"http", "h", none, "/", none⟩ (detailPath "i") none
      (.response 200 (.octets [0xC3, 0x28]))
    (s.outcomeOf (detailPath "i") none).OfServer ∧
      Contained incidentsKey (incidents.detail s "i").1.outcome ∧
      (incidents.detail s "i").1.outcome = .error (.integration incidentsKey
        (toString "GET " ++ detailPath "i" ++ " returned invalid JSON")) := by
  intro s
  have answer : s.outcomeOf (detailPath "i") none = .response 200 (.octets [0xC3, 0x28]) :=
    Server.outcomeOf_only _ _ _ _
  clear_value s
  have server : (s.outcomeOf (detailPath "i") none).OfServer := by rw [answer]; trivial
  have json : (Server.Body.octets [0xC3, 0x28]).json? = none := by decide
  refine ⟨server, (calls_contained s).2.2.1 "i" server, ?_⟩
  rw [detail_outcome, answer]
  simp only [Server.valueOf, json]
  rfl

end Remote

end IncidentBoard
