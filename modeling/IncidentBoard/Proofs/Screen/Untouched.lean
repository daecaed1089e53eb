import IncidentBoard.Proofs.Query.ClosedForm
import IncidentBoard.Proofs.Scene.Quiet
import IncidentBoard.Proofs.Screen.Parts
import IncidentBoard.Provider.Script
import IncidentBoard.Screen.ListPage

/-!
# The page of the list, left untouched

Every control of the page is shown with what the query has, so that a run of the page in which the
user touches nothing should leave the query as it is, and fetch nothing. It does, with one
exception: the choice of a commander shows the first option where the commander of the query is not
among them, and then takes what it has shown for a choice of the user.

## Main definitions

* `ListQuery.Reached` — a query that actions lead to.
* `ListPage.Offers` — the commander of the query is among the options that are looked up.
* `ListPage.Leads` — what the choice of a commander leads to, whatever the lookup gives.
* `ListPage.render_meets` — the page leads to what that choice leads to.
* `ListPage.render_untouched` — what a page that is left untouched changes.
-/

namespace IncidentBoard

/-! ## Queries that are reached -/

namespace ListQuery

/-- A query that actions lead to, from the first one of a team. -/
def Reached (q : ListQuery) : Prop :=
  ∃ settings team first resetPage actions,
    Dashboard.firstQuery settings team = .ok first ∧ q = first.followAll resetPage actions

/-- No filter of a query is an empty text. -/
structure Filled (q : ListQuery) : Prop where
  search : q.search ≠ some ""
  commander : q.commander ≠ some ""

theorem Filled.first {settings : Settings} {team : String} {q : ListQuery}
    (first : Dashboard.firstQuery settings team = .ok q) : q.Filled := by
  rw [Dashboard.firstQuery_eq] at first
  split at first
  · cases first
    exact ⟨nofun, nofun⟩
  · cases first

theorem Filled.apply {q : ListQuery} (filled : q.Filled) {a : Action} {c : Change}
    (change : a.change? = some c) : (q.apply c).Filled := by
  cases c with
  | search term =>
    cases a with
    | setSearch v =>
      obtain ⟨_, read, same⟩ := Option.map_eq_some_iff.1 change
      cases same
      exact ⟨Json.filterText?_ne read, filled.commander⟩
    | _ => simp [Action.change?] at change
  | commander id =>
    cases a with
    | setCommander v =>
      obtain ⟨_, read, same⟩ := Option.map_eq_some_iff.1 change
      cases same
      exact ⟨filled.search, Json.filterText?_ne read⟩
    | _ => simp [Action.change?] at change
  | _ => exact ⟨filled.search, filled.commander⟩

theorem Filled.follow {q : ListQuery} (filled : q.Filled) (resetPage : Bool) (a : Action) :
    (q.follow resetPage a).Filled := by
  rw [follow_eq]
  cases change : a.change? with
  | none => exact filled
  | some c =>
    change (q.transition resetPage c).query.Filled
    rw [transition_query]
    exact ⟨(filled.apply change).search, (filled.apply change).commander⟩

/-- No action filters by the empty text. -/
theorem Reached.filled {q : ListQuery} (reached : q.Reached) : q.Filled := by
  obtain ⟨settings, team, first, resetPage, actions, read, rfl⟩ := reached
  induction actions using List.reverseRecOn with
  | nil => exact .first read
  | append_singleton actions a ih =>
    rw [followAll_concat]
    exact ih.follow resetPage a

theorem Reached.search_ne {q : ListQuery} (reached : q.Reached) : q.search ≠ some "" :=
  reached.filled.search

end ListQuery

end IncidentBoard

namespace IncidentBoard.Screen.ListPage

open IncidentBoard.Screen

variable {σ δ : Type} {g : Gestures} {P E : Dashboard σ δ → Prop}

/-! ## Below the controls -/

theorem settle_grows (env : Backend σ δ) : (settle env).Grows := .update _

theorem complaint_meets (d : Dashboard σ δ) : Render.Meets g P (complaint d) (fun _ => P) P := by
  unfold complaint
  split
  · exact .text _ _
  · exact .done

theorem head_meets (env : Backend σ δ) (box : Box) (c : SortColumn) :
    Render.Meets g P (head env box c) (fun _ => P) P := by
  unfold head
  refine .stateThen fun d => (Render.Meets.press _ _).bind fun pressed => .skip ?_ .done
  exact (Render.Grows.update _).bind fun _ => (settle_grows env).bind fun _ => .again

theorem heads_meets (env : Backend σ δ) : Render.Meets g P (heads env) (fun _ => P) P := by
  unfold heads
  refine (Render.Meets.columns _).bind fun column => ?_
  exact .andThen (.forM fun x _ => head_meets env _ _) (.textIn _ _ _)

theorem row_meets (env : Backend σ δ) (zone : Zone) (people : List UserProfile) (x : Incident) :
    Render.Meets g P (row env zone people x) (fun _ => P) P := by
  unfold row
  refine (Render.Meets.columns _).bind fun column => (Render.Meets.press _ _).bind fun pressed => ?_
  extract_lets others
  have rest : Render.Meets g P (others ()) (fun _ => P) P := by
    refine (Render.Meets.textIn (column 1) .write (stateWord x)).andThen ?_
    refine (Render.Meets.ofExcept fun _ _ _ => id).bind fun start => ?_
    refine (Render.Meets.textIn _ _ _).andThen (.stateThen fun d => ?_)
    refine (Render.Meets.ofExcept fun _ _ _ => id).bind fun ended => ?_
    exact (Render.Meets.textIn _ _ _).andThen (.textIn _ _ _)
  refine .skip ?_ rest
  refine (Render.Grows.act _).bind fun result => ?_
  split
  · exact (Render.Grows.showIn _ _).bind fun _ => rest.grows
  · exact Render.Grows.again.bind fun _ => rest.grows

theorem rows_meets (env : Backend σ δ) (zone : Zone) (people : List UserProfile) :
    Render.Meets g P (rows env zone people) (fun _ => P) P := by
  unfold rows
  refine .stateThen fun d => ?_
  have each := Render.Meets.forM (g := g) (P := P) (E := P) fun x (_ : x ∈ d.list.items) =>
    row_meets env zone people x
  split
  · exact (Render.Meets.text _ _).bind fun _ => each
  · exact each

theorem pages_meets (env : Backend σ δ) (q : ListQuery) (total : Int) :
    Render.Meets g P (pages env q total) (fun _ => P) P := by
  unfold pages
  refine (Pager.render_meets _ _ _).bind fun page => ?_
  refine .imp (.skip ?_ .done) (fun _ => And.imp_left not_not.2) fun _ _ => id
  exact (Render.Grows.update _).bind fun _ => (settle_grows env).bind fun _ => .again

/-! ## The controls -/

/-- Where an option is among the options, the one at its index is that option. -/
theorem option_at_idxOf {α : Type} [BEq α] [LawfulBEq α] {options : List α} {x : α}
    (among : x ∈ options) (other : α) : options.getD ((options.idxOf? x).getD 0) other = x := by
  obtain ⟨i, index⟩ := Option.isSome_iff_exists.1 (List.isSome_idxOf?.2 among)
  obtain ⟨bound, at_index, -⟩ := List.idxOf?_eq_some_iff.1 index
  simp [index, bound, at_index]

/-- A search field that is left asks for the term of the query, unless that is an empty text. -/
theorem searchField_meets (box : Box) (q : ListQuery) :
    Render.Meets g (fun s => q.search ≠ some "" ∧ P s) (searchField box q) (fun _ => P) E := by
  unfold searchField
  refine (Render.Meets.textInput _ _ _).bind fun term => ?_
  refine .imp (.skip (.update _) .done) ?_ fun _ _ => id
  rintro s ⟨rfl, given, holds⟩
  refine ⟨not_not.2 ?_, holds⟩
  cases search : q.search with
  | none => simp [ListQuery.given?]
  | some term => simpa [ListQuery.given?, search] using given

/-- The choice of a status that is left answers the status of the query. -/
theorem statusField_meets (box : Box) (q : ListQuery) :
    Render.Meets g P (statusField box q) (fun _ => P) E := by
  unfold statusField
  refine (Render.Meets.choose _ _).bind fun index => ?_
  refine .imp (.skip (.update _) .done) ?_ fun _ _ => id
  rintro s ⟨rfl, holds⟩
  have among : statusOf q ∈ StatusFilter.every := by cases statusOf q <;> decide
  exact ⟨not_not.2 (option_at_idxOf among .all), holds⟩

/-- The choice of a commander that is left answers the one of the query, if he is an option. -/
theorem commanderField_meets (box : Box) (people : List UserProfile) (q : ListQuery) :
    Render.Meets g (fun s => q.commander ∈ commanderOptions people ∧ P s)
      (commanderField box people q) (fun _ => P) E := by
  unfold commanderField
  refine (Render.Meets.choose _ _).bind fun index => ?_
  refine .imp (.skip (.update _) .done) ?_ fun _ _ => id
  rintro s ⟨rfl, among, holds⟩
  exact ⟨not_not.2 (option_at_idxOf among none), holds⟩

/-! ## A commander who is no option -/

/-- The query without its commander, on the page that a change of a filter leads to. -/
def withoutCommander (d : Dashboard σ δ) : ListQuery :=
  { d.query with
    commander := none
    page := if d.scene.board.resetPage then 0 else d.query.page }

/-- The commander of the query was dropped, and a list fetched for it. -/
structure Drops (d t : Dashboard σ δ) : Prop where
  query : t.query = withoutCommander d
  latest : t.scene.board.latest = d.scene.board.latest + 1
  search : t.scene.search.waiting = none

theorem reduce_withoutCommander {d : Dashboard σ δ} (set : d.query.commander ≠ none) :
    d.query.reduce d.scene.board.resetPage (.setCommander .null) =
      .ok ⟨withoutCommander d, true⟩ := by
  refine ListQuery.reduce_eq_ok_iff.2 ⟨.commander none, rfl, ?_⟩
  have changed : d.query.apply (.commander none) ≠ d.query := fun same =>
    set (congrArg ListQuery.commander same).symm
  have moved : withoutCommander d ≠ d.query := fun same =>
    set (congrArg ListQuery.commander same).symm
  have next : withoutCommander d = if d.scene.board.resetPage = true then
      { d.query.apply (.commander none) with page := 0 } else d.query.apply (.commander none) := by
    unfold withoutCommander
    split <;> rfl
  simp only [ListQuery.transition, Change.isFilter, Bool.true_and, changed, ne_eq,
    not_false_eq_true, decide_true, Bool.and_true, reduceCtorEq, false_or]
  rw [← next, decide_eq_true moved]

/-- To drop the commander of the query is an action that asks for a list. -/
theorem dispatch_drops {d t : Dashboard σ δ} (board : t.scene.board = d.scene.board)
    (search : t.scene.search.waiting = none) (set : d.query.commander ≠ none) :
    ∃ s, t.scene.dispatch (.setCommander .null) = .ok s ∧ Drops d (t.withScene s) := by
  have posted : t.scene.dispatch (.setCommander .null) =
      .ok ({ t.scene with
        board := ({ d.scene.board with query := withoutCommander d } : Board).issue.1 }.post
          (.fetchOpens ⟨d.scene.board.latest + 1, withoutCommander d⟩)) := by
    have reduced : d.scene.board.query.reduce _ _ = _ := reduce_withoutCommander set
    rw [Scene.dispatch, Board.dispatch, board, reduced]
    rfl
  exact ⟨_, posted, rfl, rfl, search⟩

/-- Where the commander of the query is no option, to leave the choice drops him. -/
theorem commanderField_drops {E : Dashboard (σ × List Request) δ → Prop}
    (d : Dashboard (σ × List Request) δ) (box : Box) (people : List UserProfile) (q : ListQuery) :
    Render.Meets g
      (fun t => q.commander ∉ commanderOptions people ∧ q = d.query ∧ Scene.Rests d.scene t.scene)
      (commanderField box people q) (fun _ => Drops d) E := by
  unfold commanderField
  refine (Render.Meets.choose _ _).bind fun index => ?_
  -- the first option is shown as chosen, and it is no one
  have no_one (among : q.commander ∉ commanderOptions people)
      (left : index = (commanderChoice people q).index) :
      (commanderOptions people).getD index none = none := by
    have first : (commanderChoice people q).index = 0 := by
      change ((commanderOptions people).idxOf? q.commander).getD 0 = 0
      rw [List.idxOf?_eq_none_iff.2 among, Option.getD_none]
    rw [left, first]
    rfl
  have set (among : q.commander ∉ commanderOptions people) : q.commander ≠ none := by
    intro unset
    simp [unset, commanderOptions] at among
  dsimp only
  split
  · refine .update ?_
    rintro t ⟨left, among, rfl, rests⟩
    obtain ⟨s, sent, drops⟩ := dispatch_drops (t := t) rests.board rests.quiet.search (set among)
    refine ⟨t.withScene s, ?_, drops⟩
    rw [no_one among left, Json.ofText?, sent]
    rfl
  next same =>
    refine .never (.pure _) ?_
    rintro t ⟨left, among, -⟩
    exact same fun kept => set among (kept.symm.trans (no_one among left))

/-! ## The page -/

/-- The commander of the query is among the options that a lookup gives, if it gives any. -/
def Offers (env : Backend σ δ) (d : Dashboard σ δ) : Prop :=
  ∀ people, (d.commanderOptions env).1 = .ok people → d.query.commander ∈ commanderOptions people

section Page

variable [TimeZones] {env : Backend σ δ} {d : Dashboard (σ × List Request) δ}
  {P : Dashboard (σ × List Request) δ → Prop}

/-- What the choice of a commander leads to, with any outcome of the lookup, the page leads to. -/
structure Leads (env : Backend σ δ) (g : Gestures) (d : Dashboard (σ × List Request) δ)
    (P : Dashboard (σ × List Request) δ → Prop) : Prop where
  zoneless : ∀ f, zoneOf d.settings = .error f → P d
  unanswered : ∀ f, (d.commanderOptions env.recorded).1 = .error f →
    P (d.commanderOptions env.recorded).2
  chosen : ∀ box people q, Render.Meets g
    (fun t => (d.commanderOptions env.recorded).1 = .ok people ∧ q = d.query ∧
      Scene.Rests d.scene t.scene)
    (commanderField box people q) (fun _ => P) P
  settles : ∀ t, P t → P (t.withScene (t.scene.waitIdle env.recorded))

theorem controls_meets (quiet : d.scene.Quiet) (search : d.query.search ≠ some "")
    (leads : Leads env g d P) :
    Render.Meets g (· = d) (controls env.recorded) (fun _ => P) P := by
  unfold controls
  refine Render.Meets.state.bind fun s => (Render.Meets.columns _).bind fun column => ?_
  refine Render.Meets.andThen (R := fun t => t = s ∧ t = d) ?_ ?_
  · refine (searchField_meets _ _).imp ?_ fun _ _ => id
    rintro t ⟨rfl, rfl⟩
    exact ⟨search, rfl, rfl⟩
  refine Render.Meets.bind (R := fun people t =>
    (d.commanderOptions env.recorded).1 = .ok people ∧ s.query = d.query ∧
      Scene.Rests d.scene t.scene) (.act ?_ ?_) fun people => ?_
  · rintro t people ⟨rfl, rfl⟩ found
    exact ⟨found, rfl, (Scene.Rests.refl quiet).commanderOptions env⟩
  · rintro t f ⟨rfl, rfl⟩ failed
    exact leads.unanswered f failed
  refine (leads.chosen _ people s.query).andThen ((statusField_meets _ _).andThen ?_)
  refine Render.Meets.andThen (R := P) ?_ (Render.Meets.pure (Q := fun _ => P) people)
  exact .update fun t holds => ⟨_, rfl, leads.settles t holds⟩

theorem render_meets (quiet : d.scene.Quiet) (search : d.query.search ≠ some "")
    (leads : Leads env g d P) :
    Render.Meets g (· = d) (render env.recorded) (fun _ => P) P := by
  unfold render
  refine Render.Meets.state.bind fun s => ?_
  refine Render.Meets.bind (R := fun _ => (· = d)) ?_ fun zone => ?_
  · refine (Render.Meets.ofExcept ?_).imp (fun t => id) fun _ t holds => holds.2
    rintro t f failed ⟨rfl, rfl⟩
    exact leads.zoneless f failed
  refine (Render.Meets.text _ _).andThen ((Render.Meets.text _ _).andThen ?_)
  refine (controls_meets quiet search leads).bind fun people => .stateThen fun settled => ?_
  refine (complaint_meets settled).andThen ((heads_meets _).andThen ?_)
  exact (rows_meets _ zone people).andThen (pages_meets _ _ _)

theorem leads_keep (quiet : d.scene.Quiet) (offers : Offers env.recorded d) :
    Leads env g d fun t => Scene.Rests d.scene t.scene where
  zoneless _ _ := .refl quiet
  unanswered _ _ := (Scene.Rests.refl quiet).commanderOptions env
  chosen box people q := by
    refine (commanderField_meets box people q).imp ?_ fun _ _ => id
    rintro t ⟨found, rfl, rests⟩
    exact ⟨offers people found, rests⟩
  settles t rests := rests.waitIdle env

theorem leads_drop {zone : Zone} {people : List UserProfile} (known : zoneOf d.settings = .ok zone)
    (found : (d.commanderOptions env.recorded).1 = .ok people)
    (missing : d.query.commander ∉ commanderOptions people) : Leads env g d (Drops d) where
  zoneless f failed := by simp [known] at failed
  unanswered f failed := by simp [found] at failed
  chosen box others q := by
    refine (commanderField_drops d box others q).imp ?_ fun _ _ => id
    rintro t ⟨same, rfl, rests⟩
    obtain rfl : people = others := by simpa [found] using same
    exact ⟨missing, rfl, rests⟩
  settles t drops := by
    have stays := Scene.Stays.waitIdle ⟨rfl, rfl, drops.search⟩ env.recorded (s := t.scene)
    exact ⟨stays.query.trans drops.query, stays.latest.trans drops.latest, stays.search⟩

end Page

/-- To render the list and leave everything as it is shown. If the commander of the query is among
the options that the lookup gives, or the lookup gives none because it fails with a failure that is
not the board's own, the board is as it was and no list is asked for, whatever else is answered and
however the run ends. If he is not, he is dropped from the query and a list is fetched. -/
theorem render_untouched [TimeZones] {env : Backend σ δ}
    {run : Run (Dashboard (σ × List Request) δ)}
    (quiet : run.state.scene.Quiet) (reached : run.state.query.Reached)
    (untouched : ∀ x ∈ (render env.recorded run).2.shown, run.gestures.Leaves x.2) :
    let d := run.state
    let after := (render env.recorded run).2.state
    (Offers env.recorded d →
      after.scene.board = d.scene.board ∧ after.scene.listCalls = d.scene.listCalls) ∧
    ∀ zone people, zoneOf d.settings = .ok zone →
      (d.commanderOptions env.recorded).1 = .ok people →
      d.query.commander ∉ commanderOptions people →
      after.query = withoutCommander d ∧ after.scene.board.latest = d.scene.board.latest + 1 := by
  have ends {P : Dashboard (σ × List Request) δ → Prop}
      (leads : Leads env run.gestures run.state P) : P (render env.recorded run).2.state := by
    have meets := render_meets quiet reached.search_ne leads
    obtain ⟨-, ended⟩ := meets.ends run rfl rfl untouched
    split at ended <;> exact ended
  refine ⟨fun offers => ?_, fun zone people known found missing => ?_⟩
  · have rests := ends (leads_keep quiet offers)
    exact ⟨rests.board, rests.calls⟩
  · have drops := ends (leads_drop known found missing)
    exact ⟨drops.query, drops.latest⟩

/-- A query with all filters. -/
def filtered : ListQuery :=
  { ListQuery.first "t" 15 (Nat.succ_pos 14) with
    page := 2
    search := some "db"
    status := some .active
    commander := some "u1" }

theorem filtered_reached : filtered.Reached :=
  ⟨{ (default : Settings) with perPage := 15 }, "t", _, true,
    [.setSearch (.text "db"), .setStatus (.text "active"), .setCommander (.text "u1"),
      .setPage (.int 2)], rfl, by decide⟩

/-- A board with that query, and a plan for the lookup of its commanders. -/
def filteredBoard (commanders : Plan) : Dashboard (Script × List Request) Roster :=
  ⟨{ (default : Settings) with timeZone := "UTC" }, "t",
    .start (⟨[], [], [commanders], [], []⟩, []) ⟨[]⟩ filtered 300 true⟩

/-- The commander of the query is found, and the filters are entered again as they are. -/
theorem render_untouched_of_same_entries :
    let _ : TimeZones := .none
    let env : Backend Script Roster := ⟨Script.provider, Roster.directory⟩
    let d := filteredBoard ⟨5, some (.ok (.list [.object [("user_id", .text "u1")]]))⟩
    let entered := [("Search by incident name", .text "db"), ("Commander", .int 1)]
    let after := (render env.recorded ⟨d, [], 0, ⟨none, entered⟩⟩).2.state
    after.scene.board = d.scene.board ∧ after.scene.listCalls = [] := by
  intro zones env d entered after
  have found : (d.commanderOptions env.recorded).1 = .ok [.bare "u1"] := rfl
  have offers : Offers env.recorded d := by
    intro people answer
    obtain rfl : [UserProfile.bare "u1"] = people := by simpa [found] using answer
    decide
  exact (@render_untouched Script Roster zones env ⟨d, [], 0, ⟨none, entered⟩⟩ ⟨rfl, rfl⟩
    filtered_reached (by decide +kernel)).1 offers

/-- The lookup of the commanders fails: a user who does nothing loses a filter and his page. -/
theorem filter_lost_of_failed_lookup :
    let _ : TimeZones := .none
    let env : Backend Script Roster := ⟨Script.provider, Roster.directory⟩
    let d := filteredBoard ⟨5, some (.error (.integration "incidents" "timeout"))⟩
    let ended := (render env.recorded ⟨d, [], 0, .none⟩).2
    d.scene.Quiet ∧ d.query.Reached ∧ (∀ x ∈ ended.shown, Gestures.none.Leaves x.2) ∧
      ended.state.query ≠ d.query ∧
      ended.state.scene.listCalls = [.list { d.query with page := 0, commander := none }] :=
  ⟨⟨rfl, rfl⟩, filtered_reached, fun x _ => Gestures.none_leaves x.2, by decide +kernel,
    by decide +kernel⟩

end IncidentBoard.Screen.ListPage
