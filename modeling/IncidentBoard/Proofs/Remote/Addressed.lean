import IncidentBoard.Proofs.Remote.Segments

/-!
# Which incident a request addresses

A request for an incident names it by a segment of its path, and the id is written there as it is.
Ids that stand for themselves as one segment are addressed, and requests for different ones differ.
Other ids are not: they are cut off, split, resolved or decoded, and the request is one for
something else.

## Main definitions

* `Server.asked` — the target of the last request.
* `Remote.summary_addresses_iff`, `Remote.detail_addresses_iff` — the ids that are addressed.
* `Remote.incident_addressed_iff` — both, and what follows for different requests.
-/

namespace IncidentBoard

/-- The target of the last request that a server received. -/
def Server.asked (s : Server) : String := (s.received.getLast?.map (·.target)).getD ""

namespace Remote

open Url Percent

/-- The segments of the path below which incidents are. -/
def incidentsParts : List String :=
  ["", "plugins", "com.mattermost.plugin-incident-response", "api", "v0", "incidents"]

variable {base : Url} {id tail : String}

/-! ## Paths -/

theorem toList_incidentPath (tail : String) :
    (incidentPath tail).toList = listPath.toList ++ '/' :: tail.toList := by
  simp [incidentPath, listPath]

theorem splitOn_incidentPath (tail : String) :
    (incidentPath tail).splitOn "/" = incidentsParts ++ tail.splitOn "/" := by
  have parts : (listPath.toList.splitOn '/').map String.ofList = incidentsParts := by decide
  rw [splitOn_slash, toList_incidentPath, List.splitOn_append_cons_self, List.map_append, parts,
    splitOn_slash]

theorem sentPath_incidentPath (tail : String) :
    sentPath (incidentPath tail) = incidentPath (sentPath tail) := by
  have root : sentPath (apiRoot ++ "/incidents/") = apiRoot ++ "/incidents/" := by decide
  rw [incidentPath, sentPath_append, if_pos root, incidentPath]

theorem detailPath_eq (id : String) : detailPath id = incidentPath (id ++ "/details") := by
  rw [detailPath, incidentPath, incidentPath, String.append_assoc]

theorem not_mem_incidentPath {c : Char} (root : c ∉ listPath.toList ++ ['/'])
    (absent : c ∉ tail.toList) : c ∉ (incidentPath tail).toList := by
  rw [toList_incidentPath, ← List.singleton_append, ← List.append_assoc]
  exact List.not_mem_append root absent

theorem exists_encode_incidentPath (tail : String) :
    ∃ rest, (encode keptInPath (sentPath (incidentPath tail))).toList = '/' :: 'p' :: rest := by
  obtain ⟨rest, root⟩ : ∃ rest, listPath.toList = '/' :: 'p' :: rest :=
    ⟨listPath.toList.drop 2, by decide⟩
  have slash : encodeChar keptInPath '/' = ['/'] := by decide
  have letter : encodeChar keptInPath 'p' = ['p'] := by decide
  rw [sentPath_incidentPath, toList_encode, toList_incidentPath, root]
  simp [slash, letter]

/-- The segments of a request below the incidents. -/
theorem segments_incidentPath (pathless : base.Pathless) (tail : String) :
    segments (base.below (incidentPath tail) none).target =
      ((((sentPath tail).splitOn "/").map (encode keptInPath)).foldl resolveStep
        incidentsParts.reverse).reverse.map decode := by
  obtain ⟨rest, front⟩ := exists_encode_incidentPath tail
  have kept : incidentsParts.map (encode keptInPath) = incidentsParts := by decide
  have pushed : incidentsParts.foldl resolveStep [] = incidentsParts.reverse := by decide
  rw [segments_below pathless front (by decide), sentPath_incidentPath, splitOn_incidentPath,
    List.map_append, List.foldl_append, kept, pushed]

/-! ## Ids that are addressed -/

theorem decode_incidentsParts : incidentsParts.map decode = incidentsParts := by
  have plain : ∀ s ∈ incidentsParts, hasEscape s.toList = false := by decide
  calc incidentsParts.map decode
      = incidentsParts.map id :=
        List.map_congr_left fun s member => decode_of_not_hasEscape (plain s member)
    _ = incidentsParts := List.map_id _

theorem not_mem_intercalate {segs : List String} {c : Char} (other : c ≠ '/')
    (apart : ∀ s ∈ segs, c ∉ s.toList) : c ∉ (String.intercalate "/" segs).toList := by
  induction segs with
  | nil => simp
  | cons s segs ih =>
    obtain ⟨here, later⟩ := List.forall_mem_cons.1 apart
    by_cases last : segs = []
    · simpa [last] using here
    · have slash : c ∉ "/".toList := by simpa using other
      rw [String.intercalate_cons_of_ne_nil last, String.toList_append, String.toList_append]
      exact List.not_mem_append (List.not_mem_append here slash) (ih later)

/-- A path of plain segments below the incidents leads along these segments. -/
theorem leadsTo_of_plain (pathless : base.Pathless) {segs : List String} (some : segs ≠ [])
    (plain : ∀ s ∈ segs, Plain s) :
    LeadsTo (base.below (incidentPath (String.intercalate "/" segs)) none).target
      (incidentsParts ++ segs) := by
  have number : '#' ∉ (String.intercalate "/" segs).toList :=
    not_mem_intercalate (by decide) fun s member => (plain s member).number
  have mark : '?' ∉ (String.intercalate "/" segs).toList :=
    not_mem_intercalate (by decide) fun s member => (plain s member).mark
  have sent := sentPath_of_not_mem number mark
  have resolved : (segs.map (encode keptInPath)).foldl resolveStep incidentsParts.reverse =
      (incidentsParts ++ segs.map (encode keptInPath)).reverse := by
    rw [foldl_resolveStep_of_plain, List.reverse_append]
    exact List.forall_mem_map.2 fun s member => (plain s member).encode_ne
  have stand : segs.map decode = segs :=
    (List.map_congr_left fun s member => (plain s member).decode_eq).trans (List.map_id _)
  constructor
  · obtain ⟨rest, front⟩ := exists_encode_incidentPath (String.intercalate "/" segs)
    exact queryOf_below pathless front (by decide) (not_mem_incidentPath (by decide) number)
      (not_mem_incidentPath (by decide) mark)
  · rw [segments_incidentPath pathless, sent,
      splitOn_intercalate_slash some fun s member => (plain s member).slash, resolved,
      List.reverse_reverse, List.map_append, decode_incidentsParts, List.map_map,
      decode_comp_encode, stand]

/-- What lies behind a front lies behind every front that is no longer. -/
theorem mem_of_append_eq {α : Type} {front back before after : List α} {x : α}
    (split : front ++ back = before ++ x :: after) (short : front.length ≤ before.length) :
    x ∈ back := by
  rcases List.append_eq_append_iff.1 split with ⟨more, -, behind⟩ | ⟨more, longer, behind⟩
  · rw [behind]
    exact List.mem_append_right _ (.head _)
  · have length := congrArg List.length longer
    rw [List.length_append] at length
    have nothing : more = [] := List.eq_nil_of_length_eq_zero (by omega)
    rw [nothing, List.nil_append] at behind
    exact behind ▸ .head _

/-- If the path of a request below the incidents leads on by a text, and what is sent behind the
incidents has only segments that are parts of the text or plain, then the text is plain. -/
theorem plain_of_segments (pathless : base.Pathless) {more : List String}
    (parts : ∀ s ∈ (sentPath tail).splitOn "/", s.toList.Sublist id.toList ∨ Plain s)
    (leads : segments (base.below (incidentPath tail) none).target =
      incidentsParts ++ id :: more) : Plain id := by
  rw [segments_incidentPath pathless] at leads
  obtain ⟨pushed, kept, result, suffix, plain⟩ := foldl_resolveStep
    (((sentPath tail).splitOn "/").map (encode keptInPath)) incidentsParts.reverse
  -- What is left of the segments of the incidents is too short to reach the id.
  have short : (kept.reverse.map decode).length ≤ incidentsParts.length := by
    simpa using suffix.length_le
  rw [result, List.reverse_append, List.map_append] at leads
  have member := mem_of_append_eq leads short
  obtain ⟨s, pushedHere, stands⟩ := List.mem_map.1 member
  obtain ⟨given, dot, dots⟩ := plain s (List.mem_reverse.1 pushedHere)
  obtain ⟨piece, split, rfl⟩ := List.mem_map.1 given
  rw [decode_encode] at stands
  rcases parts piece split with sub | itself
  · obtain ⟨rfl, escape⟩ := eq_of_decode_eq sub stands
    obtain ⟨slash, part⟩ := mem_splitOn_slash split
    have keptDot : encode keptInPath "." = "." := by decide
    have keptDots : encode keptInPath ".." = ".." := by decide
    exact {
      slash := slash
      mark := fun member => not_mem_sentPath (.inr rfl) _ (part.subset member)
      number := fun member => not_mem_sentPath (.inl rfl) _ (part.subset member)
      dot := fun same => dot ((congrArg _ same).trans keptDot)
      dots := fun same => dots ((congrArg _ same).trans keptDots)
      escape := escape }
  · rw [itself.decode_eq] at stands
    exact stands ▸ itself

/-- The segments of what is sent of an id are parts of it. -/
theorem part_of_sent {s : String} (member : s ∈ (sentPath id).splitOn "/") :
    s.toList.Sublist id.toList :=
  (mem_splitOn_slash member).2.trans (sentPath_sublist id)

/-- So are those of the path of its details, but for the last one. -/
theorem part_of_sent_details {s : String}
    (member : s ∈ (sentPath (id ++ "/details")).splitOn "/") :
    s.toList.Sublist id.toList ∨ Plain s := by
  rw [sentPath_append] at member
  split at member
  · have text : (id ++ sentPath "/details").toList = id.toList ++ '/' :: "details".toList := by
      rw [String.toList_append]
      rfl
    have last : ("details".toList.splitOn '/').map String.ofList = ["details"] := by decide
    rw [splitOn_slash, text, List.splitOn_append_cons_self, List.map_append, last,
      ← splitOn_slash] at member
    rcases List.mem_append.1 member with member | member
    · exact .inl (mem_splitOn_slash member).2
    · rw [List.mem_singleton.1 member]
      exact .inr (by decide)
  · exact .inl (part_of_sent member)

theorem summary_addresses_iff (pathless : base.Pathless) (id : String) :
    LeadsTo (base.below (incidentPath id) none).target (incidentsParts ++ [id]) ↔ Plain id := by
  constructor
  · rintro ⟨-, leads⟩
    exact plain_of_segments pathless (fun s member => .inl (part_of_sent member)) leads
  · intro plain
    have leads := leadsTo_of_plain pathless (List.cons_ne_nil id [])
      (List.forall_mem_singleton.2 plain)
    rwa [String.intercalate_singleton] at leads

theorem detail_addresses_iff (pathless : base.Pathless) (id : String) :
    LeadsTo (base.below (detailPath id) none).target (incidentsParts ++ [id, "details"]) ↔
      Plain id := by
  rw [detailPath_eq]
  constructor
  · rintro ⟨-, leads⟩
    exact plain_of_segments pathless (fun s => part_of_sent_details) leads
  · intro plain
    have details : Plain "details" := by decide
    have leads := leadsTo_of_plain pathless (List.cons_ne_nil id ["details"])
      (List.forall_mem_cons.2 ⟨plain, List.forall_mem_singleton.2 details⟩)
    have text : String.intercalate "/" [id, "details"] = id ++ "/details" := by
      rw [String.intercalate_cons_cons, String.intercalate_singleton, String.append_assoc]
      rfl
    rwa [text] at leads

/-! ## Requests -/

variable (s : Server)

@[simp] theorem asked_get (provider path : String) (query : Option String) :
    (s.get provider path query).2.2.asked = (s.base.below path query).target := by
  unfold Server.get Server.send Server.asked
  cases s.routes <;> simp

theorem asked_summary (id : String) :
    (incidents.summary s id).2.asked = (s.base.below (incidentPath id) none).target :=
  asked_get s incidentsKey _ _

theorem asked_detail (id : String) :
    (incidents.detail s id).2.asked = (s.base.below (detailPath id) none).target :=
  asked_get s incidentsKey _ _

theorem sentPairs_ne {fields : Json.Fields} (some : fields ≠ []) : sentPairs fields ≠ "" := by
  intro empty
  have read := readForm_formPairs (fields.map fun f => (f.1, f.2.plain))
  change readForm (sentPairs fields) = _ at read
  have nothing : readForm "" = [] := by decide
  rw [empty, nothing] at read
  exact some (List.map_eq_nil_iff.1 read.symm)

theorem asked_commanders (team : String) : (incidents.commanders s team).2.asked =
    (s.base.below commandersPath (some (sentPairs [("team_id", .text team)]))).target :=
  asked_get s incidentsKey _ _

theorem queryOf_commanders_ne (team : String) :
    queryOf (incidents.commanders s team).2.asked ≠ "" := by
  rw [asked_commanders, queryOf_target]
  exact sentPairs_ne (List.cons_ne_nil _ _)

theorem segments_commanders (pathless : s.base.Pathless) (team : String) :
    segments (incidents.commanders s team).2.asked = incidentsParts ++ ["commanders"] := by
  have path : commandersPath = incidentPath "commanders" := by decide
  rw [asked_commanders, segments_below_query, path]
  exact ((summary_addresses_iff pathless "commanders").2 (by decide)).2

theorem queryOf_list_ne (q : ListQuery) : queryOf (incidents.list s q).2.asked ≠ "" := by
  have asked : (incidents.list s q).2.asked =
      (s.base.below listPath (some (sentPairs q.pairs))).target :=
    asked_get s incidentsKey _ _
  rw [asked, queryOf_target]
  exact sentPairs_ne (by simp [ListQuery.pairs])

/-- The ids that a request addresses are the plain ones. Requests for different plain ids differ,
and none for the summary of one is a request for details, for commanders or for a list; only the
path of the commanders is also that of an id. -/
theorem incident_addressed_iff (pathless : s.base.Pathless) (id : String) :
    (LeadsTo (incidents.summary s id).2.asked (incidentsParts ++ [id]) ↔ Plain id) ∧
      (LeadsTo (incidents.detail s id).2.asked (incidentsParts ++ [id, "details"]) ↔ Plain id) ∧
      (Plain id →
        (∀ other, Plain other →
          ((incidents.summary s id).2.asked = (incidents.summary s other).2.asked → id = other) ∧
          ((incidents.detail s id).2.asked = (incidents.detail s other).2.asked → id = other) ∧
          (incidents.summary s id).2.asked ≠ (incidents.detail s other).2.asked) ∧
        (∀ team, (incidents.summary s id).2.asked ≠ (incidents.commanders s team).2.asked ∧
          (segments (incidents.summary s id).2.asked =
            segments (incidents.commanders s team).2.asked ↔ id = "commanders")) ∧
        ∀ q, (incidents.summary s id).2.asked ≠ (incidents.list s q).2.asked) := by
  have summary (id : String) := summary_addresses_iff pathless id
  have detail (id : String) := detail_addresses_iff pathless id
  simp only [← asked_summary, ← asked_detail] at summary detail
  refine ⟨summary id, detail id, fun plain => ?_⟩
  obtain ⟨noQuery, leads⟩ := (summary id).2 plain
  refine ⟨fun other plain' => ⟨fun same => ?_, fun same => ?_, fun same => ?_⟩,
    fun team => ⟨fun same => ?_, ?_⟩, fun q same => ?_⟩
  · rw [same, ((summary other).2 plain').2] at leads
    simpa using leads.symm
  · have leads := ((detail id).2 plain).2
    rw [same, ((detail other).2 plain').2] at leads
    simpa using leads.symm
  · rw [same, ((detail other).2 plain').2] at leads
    simp at leads
  · exact queryOf_commanders_ne s team (same ▸ noQuery)
  · rw [leads, segments_commanders s pathless]
    simp
  · exact queryOf_list_ne s q (same ▸ noQuery)

/-- The address of this base has no path. -/
theorem pathless_start (token : String) (routes : Option (List (String × List Server.Answer))) :
    (Server.start "http://chat.example.com/" token routes).base.Pathless := by
  have text : "http://chat.example.com/" =
      "http" ++ "://" ++ "chat.example.com" ++ slashes 1 := by decide
  change (ofBase "http://chat.example.com/").Pathless
  rw [text]
  exact pathless_ofBase (by decide) (by decide) (by simp) 1

/-- An id with a space, a letter that is encoded and a percent sign that begins no escape. -/
theorem incident_addressed_iff_of_encoded_id :
    let s := Server.start "http://chat.example.com/" "" none
    s.base.Pathless ∧
      LeadsTo (incidents.summary s "50% ä").2.asked (incidentsParts ++ ["50% ä"]) ∧
      LeadsTo (incidents.detail s "50% ä").2.asked (incidentsParts ++ ["50% ä", "details"]) := by
  intro s
  have pathless := pathless_start "" none
  obtain ⟨summary, detail, -⟩ := incident_addressed_iff s pathless "50% ä"
  exact ⟨pathless, summary.2 (by decide), detail.2 (by decide)⟩

/-- An id that is a path of its own: its summary is asked for where the details of another incident
are. -/
theorem incident_not_addressed :
    let s := Server.start "http://chat.example.com/" "" none
    ¬LeadsTo (incidents.summary s "a/details").2.asked (incidentsParts ++ ["a/details"]) ∧
      (incidents.summary s "a/details").2.asked = (incidents.detail s "a").2.asked := by
  intro s
  have path : incidentPath "a/details" = detailPath "a" := (detailPath_eq "a").symm
  rw [asked_summary, summary_addresses_iff (pathless_start "" none), asked_detail, path]
  exact ⟨by decide, rfl⟩

end Remote

end IncidentBoard
