import IncidentBoard.Proofs.Answer.Order
import IncidentBoard.Proofs.Incident.Written
import IncidentBoard.Proofs.Query.Sent
import IncidentBoard.Proofs.Remote.Contained
import IncidentBoard.Proofs.Text.Form

/-!
# A server in between

A server that reads the query it is sent, looks it up in its list of incidents and answers with
the page found stands for the list itself: the provider hands over the page that the query has on
the list.

## Main definitions

* `Url.queryOf`, `Url.queryOf_target` — the query of a target.
* `IncidentsPage.toAnswer` — a page as it is answered.
* `Remote.list_transparent` — the provider hands over the page.
-/

namespace IncidentBoard

/-! ## Targets -/

namespace Url

/-- The query of a target: what stands behind its first question mark. -/
def queryOf (target : String) : String := ((splitAt '?' target).2).getD ""

theorem not_mem_encode {keep : Char → Bool} {c : Char} (s : String) (dropped : keep c = false)
    (plain : ¬ (Percent.isUnreserved c = true ∨ c = '%')) : c ∉ (Percent.encode keep s).toList := by
  intro member
  rw [Percent.encode, String.toList_ofList, List.mem_flatMap] at member
  obtain ⟨d, -, part⟩ := member
  split at part
  · rename_i kept
    rw [List.mem_singleton.1 part, kept] at dropped
    cases dropped
  · obtain ⟨n, octets, digit⟩ := List.mem_flatMap.1 part
    exact plain (Percent.mem_octet (Percent.octetsOf_lt octets) digit)

/-- A text is split in front of and behind the first character of a kind. -/
theorem splitAt_eq {c : Char} {s : String} {before after : List Char} (h : c ∉ before)
    (text : s.toList = before ++ c :: after) :
    splitAt c s = (String.ofList before, some (String.ofList after)) := by
  have kept : ∀ d ∈ before, decide (d ≠ c) = true := by
    intro d hd
    rw [decide_eq_true_iff]
    rintro rfl
    exact h hd
  have first : s.toList.takeWhile (fun d => decide (d ≠ c)) = before := by
    rw [text, List.takeWhile_append_of_pos kept]
    simp
  simp only [splitAt, first]
  rw [text, List.drop_left]

/-- The query that a request is sent with is the query of its target. -/
theorem queryOf_target (base : Url) (path query : String) :
    queryOf (base.below path (some query)).target = query := by
  obtain ⟨sent, plain⟩ : ∃ sent, (base.below path (some query)).path =
      Percent.encode keptInPath sent := ⟨_, rfl⟩
  have mark : '?' ∉ (Percent.encode keptInPath sent).toList :=
    not_mem_encode sent (by decide) (by decide)
  have text : (base.below path (some query)).target.toList =
      (Percent.encode keptInPath sent).toList ++ '?' :: query.toList := by
    rw [target, plain]
    simp [below]
  rw [queryOf, splitAt_eq mark text, Option.getD_some, String.ofList_toList]

end Url

/-! ## Answers -/

/-- A page as a server answers it. -/
def IncidentsPage.toAnswer (p : IncidentsPage) : Json :=
  .object [("incidents", .list (p.items.map fun x => .object x.toFields)),
    ("total_count", .int p.total)]

/-- An incident with times of up to 4300 digits. -/
def Incident.Short (x : Incident) : Prop := Json.Short x.createdAt ∧ Json.Short x.endedAt

namespace IncidentsPage

variable {p : IncidentsPage}

theorem exact_toFields {x : Incident} (short : x.Short) : (Json.object x.toFields).Exact := by
  refine ⟨?_, ?_⟩
  · simp [Incident.toFields]
  · simp [Incident.toFields, Json.ExactFields, Json.Exact, short.1, short.2]

/-- A page of short numbers is read back from its written form. -/
theorem exact_toAnswer (items : ∀ x ∈ p.items, x.Short) (total : Json.Short p.total) :
    p.toAnswer.Exact := by
  have listed : ∀ xs : List Incident, (∀ x ∈ xs, x.Short) →
      Json.ExactItems (xs.map fun x => .object x.toFields) := by
    intro xs short
    induction xs with
    | nil => trivial
    | cons x rest ih =>
      exact ⟨exact_toFields (short x (.head _)), ih fun y hy => short y (.tail _ hy)⟩
  refine ⟨by simp, ?_⟩
  simp [Json.ExactFields, Json.Exact, listed p.items items, total]

end IncidentsPage

namespace Remote

theorem readAll_map {α : Type} {read : Json → Except Field.Rejection α} {write : α → Json}
    (h : ∀ x, read (write x) = .ok x) (xs : List α) : readAll read (xs.map write) = .ok xs := by
  induction xs with
  | nil => rfl
  | cons x rest ih =>
    rw [List.map_cons, readAll, h, ih]
    rfl

/-- A page is read from the answer that it is sent as. -/
theorem pageOf_toAnswer (p : IncidentsPage) : pageOf p.toAnswer = .ok p := by
  let raw : Json := .list (p.items.map fun x => .object x.toFields)
  let fields : Json.Fields := [("incidents", raw), ("total_count", .int p.total)]
  have found : (Json.Fields.get? fields "incidents").getD .null = raw := rfl
  have walked : walk (if raw.truthy then raw else .list []) =
      .ok (p.items.map fun x => .object x.toFields) := by
    cases h : p.items <;> simp [raw, h, Json.truthy, walk]
  have read : readAll Incident.read (p.items.map fun x => .object x.toFields) = .ok p.items :=
    readAll_map Incident.read_toFields p.items
  have total : (Field.optional fields "total_count" 0 Field.whole).of IncidentsPage.model =
      .ok p.total := rfl
  change pageOf (.object fields) = .ok p
  simp only [pageOf, found, walked, read, total]

/-- A call for a list that is answered with a page gives the page. -/
theorem list_of_page {s : Server} {q : ListQuery} {p : IncidentsPage} {body : Server.Body}
    (carried : body.json? = some p.toAnswer)
    (answer : s.outcomeOf listPath (some (sentPairs q.pairs)) = .response 200 body) :
    (incidents.list s q).1.outcome = .ok p := by
  have value : Server.valueOf incidentsKey listPath (.response 200 body) = .ok p.toAnswer := by
    simp only [Server.valueOf, carried]
    rfl
  rw [list_outcome, answer, value]
  exact pageOf_toAnswer p

theorem mem_of_mem_answer {q : ListQuery} {xs : List Incident} {x : Incident}
    (member : x ∈ (q.answer xs).items) : x ∈ xs := by
  have found : x ∈ q.matching xs := List.mem_of_mem_drop (List.mem_of_mem_take member)
  exact List.mem_of_mem_filter ((q.matching_perm xs).subset found)

/-- The target of a call for a list says which query is asked. -/
theorem ofSent_target {decode : String → List (String × String)}
    (decodes : ∀ pairs, decode (Percent.formPairs pairs) = pairs) (base : Url) {q : ListQuery}
    (page : Json.Short q.page) (perPage : Json.Short q.perPage) :
    ListQuery.ofSent (decode (Url.queryOf
      (base.below listPath (some (sentPairs q.pairs))).target)) = .ok q.settled := by
  have read : decode (Url.queryOf (base.below listPath (some (sentPairs q.pairs))).target) =
      q.sent := by
    rw [Url.queryOf_target, sentPairs, decodes]
    rfl
  rw [read, ListQuery.ofSent_sent page perPage]

/-- Suppose that a server reads the names and texts out of the query of the target that it is sent,
as a decoder of forms does. Then it reads a query from them, and the page that this query has on
its list is written as octets that read back as the page. Whatever body carries that page, the
call gives the page that the query asked for has on the list. -/
theorem list_transparent {decode : String → List (String × String)}
    (decodes : ∀ pairs, decode (Percent.formPairs pairs) = pairs) (s : Server) {q : ListQuery}
    (page : Json.Short q.page) (perPage : Json.Short q.perPage) {xs : List Incident}
    (short : ∀ x ∈ xs, x.Short) (total : Json.Short (q.answer xs).total) :
    let query := some (sentPairs q.pairs)
    let target := (s.base.below listPath query).target
    ∃ asked, ListQuery.ofSent (decode (Url.queryOf target)) = .ok asked ∧
      let answer := (asked.answer xs).toAnswer
      (Server.Body.octets answer.octets).json? = some answer ∧
        ∀ body : Server.Body, body.json? = some answer →
          s.outcomeOf listPath query = .response 200 body →
          (incidents.list s q).1.outcome = .ok (q.answer xs) := by
  intro query target
  refine ⟨q.settled, ofSent_target decodes s.base page perPage, ?_⟩
  rw [ListQuery.answer_settled]
  intro answer
  have exact : answer.Exact :=
    IncidentsPage.exact_toAnswer (fun x hx => short x (mem_of_mem_answer hx)) total
  exact ⟨Json.ofOctets?_octets exact, fun body carried => list_of_page carried⟩

/-- A search for a text with signs of its own, with a filter that filters nothing, over two
incidents. -/
theorem list_transparent_of_special_characters :
    let q : ListQuery := { ListQuery.first "t" 1 (by decide) with
      page := 1, sort := .name, search := some "Ä&=+%", status := some .all, commander := some "" }
    let incident (id name : String) : Incident := ⟨id, name, "\n", true, -1, 0, "u", "t", ""⟩
    let xs := [incident "b" "a ä&=+%", incident "a" "x"]
    let base : Url := ⟨"http", "h", none, "/", none⟩
    let query := some (sentPairs q.pairs)
    let s : Server := .only base listPath query
      (.response 200 (.octets (q.settled.answer xs).toAnswer.octets))
    (incidents.list s q).1.outcome = .ok (q.answer xs) := by
  intro q incident xs base query s
  have answered : s.outcomeOf listPath query =
      .response 200 (.octets (q.settled.answer xs).toAnswer.octets) :=
    Server.outcomeOf_only _ _ _ _
  clear_value s
  have short : ∀ x ∈ xs, x.Short := by
    have each (id name : String) : (incident id name).Short :=
      ⟨show Json.Short (-1) by decide, show Json.Short 0 by decide⟩
    exact List.forall_mem_cons.2 ⟨each _ _, List.forall_mem_singleton.2 (each _ _)⟩
  have total : Json.Short (q.answer xs).total := by
    have few : (q.matching xs).length ≤ 2 :=
      (q.matching_perm xs).length_eq ▸ List.length_filter_le _ xs
    have digits : ∀ n ≤ 2, Json.Short (n : Nat) := by decide
    exact digits _ few
  have page : Json.Short q.page := by decide
  have perPage : Json.Short q.perPage := by decide
  obtain ⟨asked, read, carried, gives⟩ :=
    list_transparent Percent.readForm_formPairs s page perPage short total
  rw [ofSent_target Percent.readForm_formPairs s.base page perPage] at read
  cases read
  exact gives _ carried answered

end Remote

end IncidentBoard
