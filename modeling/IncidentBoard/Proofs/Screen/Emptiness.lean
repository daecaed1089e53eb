import IncidentBoard.Proofs.Answer.Emptiness
import IncidentBoard.Proofs.Scene.Life
import IncidentBoard.Proofs.Screen.Untouched

/-!
# What is said of an empty list

The page of the list says that there are no incidents where the list has no items. That is so if no
incident is asked for, and also on a page past the end of those that are: the message goes by the
items of the page, and not by their total.

## Main definitions

* `notes` — what was said on a screen.
* `Passes`, `Render.Silent` — parts of a run that say nothing, and let the scene live on.
* `ListPage.rows_notes`, `ListPage.untilRows` — the part of the page that may say so, and the parts
  before it.
* `ListPage.empty_said` — when it is said, and when it is true.
-/

namespace IncidentBoard.Screen

/-- What was said in notes on a screen. -/
def notes (shown : List (Box × Element)) : List String :=
  shown.filterMap fun
    | (_, .text .info content) => some content
    | _ => none

@[simp] theorem notes_append (shown more : List (Box × Element)) :
    notes (shown ++ more) = notes shown ++ notes more := List.filterMap_append

theorem notes_concat (shown : List (Box × Element)) {x : Box × Element} (silent : notes [x] = []) :
    notes (shown ++ [x]) = notes shown := by
  rw [notes_append, silent, List.append_nil]

variable {σ δ α β : Type} {env : Backend σ δ} {r s t : Run (Dashboard σ δ)}

/-- From one point of a run to another one nothing is said, and the scene lives on. -/
structure Passes (env : Backend σ δ) (r t : Run (Dashboard σ δ)) : Prop where
  leads : Scene.LeadsTo env r.state.scene t.state.scene
  name : t.state.teamName = r.state.teamName
  notes : notes t.shown = notes r.shown

namespace Passes

theorem of_state_eq (state : t.state = r.state)
    (said : Screen.notes t.shown = Screen.notes r.shown) : Passes env r t :=
  ⟨state ▸ .refl env r.state.scene, by rw [state], said⟩

theorem trans (first : Passes env r s) (second : Passes env s t) : Passes env r t :=
  ⟨first.leads.trans second.leads, second.name.trans first.name, second.notes.trans first.notes⟩

end Passes

namespace Render

/-- A part of a run that says nothing, and lets the scene live on. -/
def Silent (env : Backend σ δ) (m : Render (Dashboard σ δ) α) : Prop :=
  ∀ run, Passes env run (m run).2

namespace Silent

variable {m : Render (Dashboard σ δ) α} {f : α → Render (Dashboard σ δ) β}

theorem pure (env : Backend σ δ) (a : α) : Silent env (Pure.pure a) :=
  fun _ => .of_state_eq rfl rfl

theorem bind (first : Silent env m) (second : ∀ a, Silent env (f a)) : Silent env (m >>= f) := by
  intro run
  have before := first run
  rw [bind_run]
  cases parts : m run with
  | mk outcome after =>
    rw [parts] at before
    cases outcome with
    | ok a => exact before.trans (second a after)
    | error stop => exact before

theorem forM {xs : List β} {g : β → Render (Dashboard σ δ) Unit} (each : ∀ x, Silent env (g x)) :
    Silent env (xs.forM g) := by
  induction xs with
  | nil => exact pure env ()
  | cons x rest ih => exact (each x).bind fun _ => ih

theorem state : Silent env (Render.state (ω := Dashboard σ δ)) := fun _ => .of_state_eq rfl rfl

theorem ofExcept (x : Except Failure α) : Silent env (Render.ofExcept x) := fun run => by
  rw [ofExcept_run]
  exact .of_state_eq rfl rfl

theorem act {f : Dashboard σ δ → Except Failure α × Dashboard σ δ}
    (leads : ∀ d, Scene.LeadsTo env d.scene (f d).2.scene)
    (name : ∀ d, (f d).2.teamName = d.teamName) : Silent env (Render.act f) := fun run => by
  rw [act_run]
  exact ⟨leads run.state, name run.state, rfl⟩

theorem update {f : Dashboard σ δ → Except Failure (Scene σ δ)}
    (leads : ∀ d s, f d = .ok s → Scene.LeadsTo env d.scene s) :
    Silent env (Render.update fun d => (f d).map d.withScene) := fun run => by
  rw [update_run]
  cases changed : f run.state with
  | error e => exact .of_state_eq rfl rfl
  | ok s => exact ⟨leads run.state s changed, rfl, rfl⟩

theorem showIn (box : Box) {e : Element} (silent : notes [(box, e)] = []) :
    Silent env (Render.showIn box e) :=
  fun run => .of_state_eq rfl (notes_concat run.shown silent)

theorem textIn (box : Box) {kind : TextKind} (content : String) (silent : kind ≠ .info) :
    Silent env (Render.textIn box kind content) := by
  refine showIn box ?_
  cases kind with
  | info => exact absurd rfl silent
  | _ => rfl

theorem columns (split : Split) : Silent env (Render.columns split) :=
  fun run => .of_state_eq rfl (notes_concat run.shown rfl)

theorem textInput (box : Box) (label value : String) :
    Silent env (Render.textInput box label value) :=
  fun run => .of_state_eq rfl (notes_concat run.shown rfl)

theorem choose (box : Box) (c : Choice) : Silent env (Render.choose box c) :=
  fun run => .of_state_eq rfl (notes_concat run.shown rfl)

theorem press (box : Box) (b : Button) : Silent env (Render.press box b) := fun run => by
  rw [press_run]
  split <;> exact .of_state_eq rfl (notes_concat run.shown rfl)

theorem again : Silent env (Render.again (ω := Dashboard σ δ) (α := α)) :=
  fun run => .of_state_eq rfl (notes_concat run.shown rfl)

end Silent

end Render

namespace ListPage

open Render

theorem settle_silent : Silent env (settle (σ := σ) (δ := δ) env) :=
  .update (f := fun d => .ok (d.scene.waitIdle env)) fun d s same => by
    cases same
    exact .waitIdle env d.scene

theorem searchField_silent (box : Box) (q : ListQuery) :
    Silent env (searchField (σ := σ) (δ := δ) box q) := by
  unfold searchField
  refine (Silent.textInput _ _ _).bind fun term => ?_
  split
  · refine .update (f := fun d => .ok (d.scene.type (.text term))) fun d s same => ?_
    cases same
    exact .type env d.scene _
  · exact .pure env ()

theorem commanderField_silent (box : Box) (people : List UserProfile) (q : ListQuery) :
    Silent env (commanderField (σ := σ) (δ := δ) box people q) := by
  unfold commanderField
  refine (Silent.choose _ _).bind fun index => ?_
  dsimp only
  split
  · exact .update fun d s accepted => .dispatch accepted
  · exact .pure env ()

theorem statusField_silent (box : Box) (q : ListQuery) :
    Silent env (statusField (σ := σ) (δ := δ) box q) := by
  unfold statusField
  refine (Silent.choose _ _).bind fun index => ?_
  dsimp only
  split
  · exact .update fun d s accepted => .dispatch accepted
  · exact .pure env ()

theorem controls_silent : Silent env (controls (σ := σ) (δ := δ) env) := by
  unfold controls
  refine Silent.state.bind fun d => (Silent.columns _).bind fun column => ?_
  refine (searchField_silent _ _).bind fun _ => ?_
  refine (Silent.act (fun d => .commanderOptions env d.scene) fun d => rfl).bind fun people => ?_
  refine (commanderField_silent _ _ _).bind fun _ => (statusField_silent _ _).bind fun _ => ?_
  exact settle_silent.bind fun _ => .pure env people

theorem complaint_silent (d : Dashboard σ δ) : Silent env (complaint d) := by
  unfold complaint
  split
  · exact .textIn _ _ (by decide)
  · exact .pure env ()

theorem head_silent (box : Box) (c : SortColumn) :
    Silent env (head (σ := σ) (δ := δ) env box c) := by
  unfold head
  refine Silent.state.bind fun d => (Silent.press _ _).bind fun pressed => ?_
  split
  · refine (Silent.update fun d s accepted => .dispatch accepted).bind fun _ => ?_
    exact settle_silent.bind fun _ => .again
  · exact .pure env ()

theorem heads_silent : Silent env (heads (σ := σ) (δ := δ) env) := by
  unfold heads
  refine (Silent.columns _).bind fun column => ?_
  exact (Silent.forM fun x => head_silent _ _).bind fun _ => .textIn _ _ (by decide)

theorem row_silent (zone : Zone) (people : List UserProfile) (x : Incident) :
    Silent env (row (σ := σ) (δ := δ) env zone people x) := by
  unfold row
  refine (Silent.columns _).bind fun column => (Silent.press _ _).bind fun pressed => ?_
  extract_lets others
  have rest : Silent env (others ()) := by
    refine (Silent.textIn _ _ (by decide)).bind fun _ => ?_
    refine (Silent.ofExcept _).bind fun start => (Silent.textIn _ _ (by decide)).bind fun _ => ?_
    refine Silent.state.bind fun d => (Silent.ofExcept _).bind fun ended => ?_
    exact (Silent.textIn _ _ (by decide)).bind fun _ => .textIn _ _ (by decide)
  split
  · refine (Silent.act (fun d => .select env d.scene _) fun d => rfl).bind fun result => ?_
    split
    · exact (Silent.textIn _ _ (by decide)).bind fun _ => rest
    · exact Silent.again.bind fun _ => rest
  · exact rest

theorem pager_silent (page perPage : Nat) (total : Int) :
    Silent env (Pager.render page perPage total) := by
  unfold Pager.render
  refine (Silent.ofExcept _).bind fun offered => ?_
  split
  · exact .pure env page
  · refine (Silent.columns _).bind fun column => (Silent.textIn _ _ (by decide)).bind fun _ => ?_
    refine (Silent.press _ _).bind fun back => ?_
    split
    · exact .pure env _
    · refine (Silent.press _ _).bind fun forth => ?_
      split <;> exact .pure env _

theorem pages_silent (q : ListQuery) (total : Int) :
    Silent env (pages (σ := σ) (δ := δ) env q total) := by
  unfold pages
  refine (pager_silent _ _ _).bind fun page => ?_
  split
  · refine (Silent.update fun d s accepted => .dispatch accepted).bind fun _ => ?_
    exact settle_silent.bind fun _ => .again
  · exact .pure env ()

/-- That there are no incidents is said where the list has no items. -/
theorem rows_notes (zone : Zone) (people : List UserProfile) (run : Run (Dashboard σ δ)) :
    notes (rows env zone people run).2.shown =
      notes run.shown ++ if run.state.list.items = [] then [run.state.emptyMessage] else [] := by
  let d := run.state
  have each : Silent env (d.list.items.forM (row env zone people)) :=
    .forM fun x => row_silent zone people x
  have parts : rows env zone people run = (if d.list.items.isEmpty then
      Render.text .info d.emptyMessage >>= fun _ => d.list.items.forM (row env zone people)
    else d.list.items.forM (row env zone people)) run := rfl
  rw [parts]
  by_cases empty : d.list.items = []
  · rw [if_pos (by rw [empty]; rfl), if_pos empty, bind_run]
    let said := run.shown ++ [(.main, .text .info d.emptyMessage)]
    exact (each { run with shown := said }).notes.trans (notes_append _ _)
  · rw [if_neg (by simpa using empty), if_neg empty, List.append_nil]
    exact (each run).notes

/-! ## The page -/

section Page

variable [TimeZones]

/-- The page down to its rows: the zone, the people found, and the dashboard with its list. -/
def untilRows (env : Backend σ δ) :
    Render (Dashboard σ δ) (Zone × List UserProfile × Dashboard σ δ) := do
  let d ← Render.state
  let zone ← Render.ofExcept (zoneOf d.settings)
  Render.text .header "Incidents"
  Render.text .caption s!"({d.teamName})"
  let people ← controls env
  let settled ← Render.state
  complaint settled
  heads env
  return (zone, people, settled)

theorem render_eq (env : Backend σ δ) :
    render (σ := σ) (δ := δ) env = untilRows env >>= fun (zone, people, settled) =>
      rows env zone people >>= fun _ => pages env settled.query settled.list.total := by
  simp only [render, untilRows, bind_assoc, pure_bind]

theorem untilRows_silent : Silent env (untilRows (σ := σ) (δ := δ) env) := by
  unfold untilRows
  refine Silent.state.bind fun d => (Silent.ofExcept _).bind fun zone => ?_
  refine (Silent.textIn _ _ (by decide)).bind fun _ => ?_
  refine (Silent.textIn _ _ (by decide)).bind fun _ => controls_silent.bind fun people => ?_
  refine Silent.state.bind fun settled => (complaint_silent _).bind fun _ => ?_
  exact heads_silent.bind fun _ => .pure env _

/-- What the page says in the end was said when it came to its rows. -/
theorem render_notes (env : Backend σ δ) (run : Run (Dashboard σ δ)) :
    let top := untilRows env run
    let d := top.2.state
    let said := notes (render env run).2.shown
    (∀ stop, top.1 = .error stop → said = notes run.shown) ∧
      ∀ found, top.1 = .ok found →
        said = notes run.shown ++ if d.list.items = [] then [d.emptyMessage] else [] := by
  dsimp only
  -- nothing is said above the rows, nor below them
  have above : Passes env run (untilRows env run).2 := untilRows_silent run
  rw [render_eq, bind_run]
  cases parts : untilRows env run with
  | mk outcome top =>
    rw [parts] at above
    cases outcome with
    | error stop =>
      dsimp only at above ⊢
      exact ⟨fun _ _ => above.notes, fun _ found => nomatch found⟩
    | ok found =>
      obtain ⟨zone, people, settled⟩ := found
      dsimp only at above ⊢
      refine ⟨fun _ stopped => (nomatch stopped), fun _ _ => ?_⟩
      have said : notes (rows env zone people top).2.shown = _ := rows_notes zone people top
      rw [above.notes] at said
      rw [bind_run]
      cases rowed : rows env zone people top with
      | mk outcome after =>
        rw [rowed] at said
        cases outcome with
        | ok _ =>
          have below : Passes env after (pages env settled.query settled.list.total after).2 :=
            pages_silent _ _ after
          exact below.notes.trans said
        | error stop => exact said

variable {source : σ} {people : δ} {q : ListQuery} {quietTime : Int} {resetPage : Bool}
  {h : History}

/-- In every life of a dashboard, whatever happens on the way and however long calls take: when the
page of the list comes to its rows, it says that there are no incidents if and only if the list has
no items, and speaks of the filters if and only if the query restricts the incidents of its team.
Where the list calls are answered from some incidents and the fetch issued last succeeded, the total
of the list counts those that are asked for, and the list has no items where the page lies past the
end of them: on the first page only if there are none, and on any other page also if they are all on
the pages before. -/
theorem empty_said {run : Run (Dashboard σ δ)}
    (life : Runs (Scene.Lives env) (Scene.start source people q quietTime resetPage) h
      run.state.scene) :
    let top := untilRows env run
    let d := top.2.state
    let said := notes (render env run).2.shown
    (∀ stop, top.1 = .error stop → said = notes run.shown) ∧
      (∀ found, top.1 = .ok found →
        said = notes run.shown ++ if d.list.items = [] then [d.emptyMessage] else []) ∧
      (d.query.Restricts → d.emptyMessage =
        s!"There are no incidents for {d.teamName} matching those filters.") ∧
      (¬d.query.Restricts → d.emptyMessage = s!"There are no incidents for {d.teamName}.") ∧
      d.teamName = run.state.teamName ∧ Scene.LeadsTo env run.state.scene d.scene ∧
      ∀ k, Runs (Scene.Lives env) run.state.scene k d.scene →
        ∀ xs, (h ++ k).AnsweredFrom xs → (h ++ k).Succeeds →
          d.list.total = xs.countP (d.query.Satisfies ·) ∧
            (d.list.items = [] ↔
              xs.countP (d.query.Satisfies ·) ≤ d.query.page * d.query.perPage) := by
  intro top d said
  obtain ⟨early, reached⟩ := render_notes env run
  have passes : Passes env run top.2 := untilRows_silent run
  obtain ⟨filters, none⟩ := d.query.emptyMessage_eq d.teamName
  refine ⟨early, reached, filters, none, passes.name, passes.leads,
    fun k lives xs answered succeeds => ?_⟩
  have list : d.list = .ofPage d.query (d.query.answer xs) :=
    Scene.list_of_life (life.trans lives) answered succeeds
  rw [list]
  exact ⟨d.query.total_answer xs, ListQuery.items_answer_eq_nil_iff⟩

end Page

/-- Two incidents of a team. -/
def outages : List Incident :=
  [{ (default : Incident) with id := "1", name := "Outage", team := "t" },
    { (default : Incident) with id := "2", name := "Leak", team := "t" }]

/-- A backend that answers its list calls from them at once. -/
def outageBackend : Backend Script Roster :=
  ⟨{ Script.provider with list := fun s q => (.now (.ok (q.answer outages)), s) }, Roster.directory⟩

theorem outageBackend_answersFrom : outageBackend.provider.AnswersFrom outages := by
  intro source q page answered
  cases answered
  rfl

/-- A board that shows one of them at a time. Its filters leave the page as it is. -/
def outageBoard : Dashboard Script Roster :=
  ⟨{ (default : Settings) with timeZone := "UTC" }, "t",
    .start ⟨[], [], [], [], []⟩ ⟨[]⟩ (.first "t" 1 Nat.one_pos) 300 false⟩

/-- On the first page a name is searched for that none of them has. -/
theorem empty_said_of_unmatched_search :
    let _ : TimeZones := .none
    let env := outageBackend
    let run : Run (Dashboard Script Roster) :=
      ⟨outageBoard, [], 0, ⟨none, [("Search by incident name", .text "Fire")]⟩⟩
    let d := (untilRows env run).2.state
    ∃ h : History, Runs (Scene.Lives env) run.state.scene h d.scene ∧ h.AnsweredFrom outages ∧
      h.Succeeds ∧ d.query.Restricts ∧ d.list.total = 0 ∧
      notes (render env run).2.shown =
        ["There are no incidents for t matching those filters."] := by
  intro _ env run d
  have life : Runs (Scene.Lives env) run.state.scene [] run.state.scene := .start
  obtain ⟨-, said, filters, -, -, ⟨k, lives⟩, total⟩ := empty_said life
  have answered : History.AnsweredFrom outages ([] ++ k) :=
    Scene.answeredFrom_of_life outageBackend_answersFrom (life.trans lives)
  have succeeds : History.Succeeds ([] ++ k) := (Scene.succeeds_iff_of_life (life.trans lives)).2
    ⟨by decide +kernel, by decide +kernel, by decide +kernel⟩
  obtain ⟨counted, nothing⟩ := total k lives outages answered succeeds
  have restricts : d.query.Restricts := ListQuery.isFiltering_iff.1 (by decide +kernel)
  have unmatched : outages.countP (d.query.Satisfies ·) = 0 := by decide +kernel
  have empty : d.list.items = [] := nothing.2 (by rw [unmatched]; exact Nat.zero_le _)
  have reached : (untilRows env run).1.toOption.isSome := by decide +kernel
  refine ⟨k, lives, answered, succeeds, restricts, by rw [counted, unmatched]; rfl, ?_⟩
  cases outcome : (untilRows env run).1 with
  | error stop => simp [outcome, Except.toOption] at reached
  | ok found =>
    rw [said found outcome, if_pos empty, filters restricts]
    decide +kernel

/-- On the second page a name is searched for that one of the two has. -/
theorem said_past_end :
    let _ : TimeZones := .none
    let env := outageBackend
    let run : Run (Dashboard Script Roster) :=
      ⟨outageBoard.withScene (outageBoard.scene.attempt (.setPage (.int 1))), [], 0,
        ⟨none, [("Search by incident name", .text "Outage")]⟩⟩
    let d := (untilRows env run).2.state
    ∃ h : History, Runs (Scene.Lives env) outageBoard.scene h d.scene ∧ h.AnsweredFrom outages ∧
      h.Succeeds ∧ (∃ x ∈ outages, d.query.Satisfies x) ∧ d.list.total = 1 ∧
      notes (render env run).2.shown =
        ["There are no incidents for t matching those filters."] := by
  intro _ env run d
  have turned : Runs (Scene.Lives env) outageBoard.scene _ run.state.scene :=
    .one (.onward (.step (.act (.setPage (.int 1)) rfl)))
  have passes : Passes env run (untilRows env run).2 := untilRows_silent run
  obtain ⟨k, lives⟩ := passes.leads
  have life := turned.trans lives
  exact ⟨_, life, Scene.answeredFrom_of_life outageBackend_answersFrom life,
    (Scene.succeeds_iff_of_life life).2 ⟨by decide +kernel, by decide +kernel, by decide +kernel⟩,
    by decide +kernel, by decide +kernel, by decide +kernel⟩

end ListPage

end IncidentBoard.Screen
