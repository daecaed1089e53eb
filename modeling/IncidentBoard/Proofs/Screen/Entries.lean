import IncidentBoard.Proofs.Answer.Filters
import IncidentBoard.Proofs.Scene.Filtering
import IncidentBoard.Proofs.Screen.Untouched

/-!
# The page of the list, with entries

A user enters a search term, a commander and a status, and the page sets the filters that differ
from those of its query. The term is typed before the commanders are looked up and counts when its
quiet time has passed, be it during that lookup, after the other filters or in the wait for the
list; the other two are set at once, both compared with the query that the page began with. In the
end the query has all three, and the list is the one that it asks for.

## Main definitions

* `Gestures.text`, `Gestures.index` — what widgets answer.
* `Render.Gives` — a part of a run with some gestures: what it gives, and why it stops.
* `ListPage.enteredTerm`, `ListPage.enteredCommander`, `ListPage.enteredStatus` — the filters that
  the controls show.
* `ListPage.controls_entered` — they are the filters of the query, once the list is awaited.
-/

namespace IncidentBoard.Screen

/-! ## What parts give -/

/-- What a text field answers. -/
def Gestures.text (g : Gestures) (label value : String) : String :=
  Render.textOf value (g.entered.get? label)

/-- The index that a choice answers. -/
def Gestures.index (g : Gestures) (c : Choice) : Nat :=
  Render.indexOf c.options.length c.index (g.entered.get? c.label)

namespace Render

variable {ω α β : Type} {g : Gestures} {P P' : ω → Prop} {Q : α → ω → Prop} {E : Stop → Prop}

/-- A part of a run with some gestures: where `P` holds of the state before, `Q` holds of its value
and of the state after it, or `E` of the reason why it stops. The gestures stay. -/
def Gives (g : Gestures) (P : ω → Prop) (m : Render ω α) (Q : α → ω → Prop) (E : Stop → Prop) :
    Prop :=
  ∀ run : Run ω, run.gestures = g → P run.state →
    (m run).2.gestures = g ∧
      match (m run).1 with
      | .ok a => Q a (m run).2.state
      | .error stop => E stop

namespace Gives

theorem pre {m : Render ω α} (gives : Gives g P m Q E) (before : ∀ s, P' s → P s) :
    Gives g P' m Q E :=
  fun run gestures holds => gives run gestures (before _ holds)

/-- A part that is come to only if something holds. -/
theorem assume {p : Prop} {m : Render ω α} (gives : p → Gives g P m Q E) :
    Gives g (fun s => p ∧ P s) m Q E :=
  fun run gestures holds => gives holds.1 run gestures holds.2

theorem pure (a : α) : Gives g (Q a) (Pure.pure a) Q E :=
  fun _ gestures holds => ⟨gestures, holds⟩

theorem bind {m : Render ω α} {f : α → Render ω β} {R : β → ω → Prop} (first : Gives g P m Q E)
    (second : ∀ a, Gives g (Q a) (f a) R E) : Gives g P (m >>= f) R E := by
  intro run gestures holds
  have once := first run gestures holds
  rw [bind_run]
  cases parts : m run with
  | mk outcome after =>
    rw [parts] at once
    cases outcome with
    | ok a => exact second a after once.1 once.2
    | error stop => exact once

/-- A part that reads the state, where the state is known. -/
theorem read {s : ω} {f : ω → Render ω α} (rest : Gives g (· = s) (f s) Q E) :
    Gives g (· = s) (Render.state >>= f) Q E := by
  intro run gestures holds
  subst holds
  exact rest run gestures rfl

theorem act {f : ω → Except Failure α × ω} (after : ∀ s a, P s → (f s).1 = .ok a → Q a (f s).2)
    (stops : ∀ s e, P s → (f s).1 = .error e → E (.failed e)) : Gives g P (Render.act f) Q E := by
  intro run gestures holds
  rw [act_run]
  cases outcome : (f run.state).1 with
  | ok a => exact ⟨gestures, after _ a holds outcome⟩
  | error e => exact ⟨gestures, stops _ e holds outcome⟩

/-- A change of the state that never fails. -/
theorem update {f : ω → Except Failure ω} (after : ∀ s, P s → ∃ t, f s = .ok t ∧ P' t) :
    Gives g P (Render.update f) (fun _ => P') E := by
  intro run gestures holds
  obtain ⟨t, outcome, ended⟩ := after run.state holds
  rw [update_run, outcome]
  exact ⟨gestures, ended⟩

theorem columns (split : Split) : Gives g P (Render.columns split) (fun _ => P) E :=
  fun _ gestures holds => ⟨gestures, holds⟩

theorem textInput (box : Box) (label value : String) :
    Gives g P (Render.textInput box label value) (fun term s => term = g.text label value ∧ P s)
      E := by
  intro run gestures holds
  subst gestures
  exact ⟨rfl, rfl, holds⟩

theorem choose (box : Box) (c : Choice) :
    Gives g P (Render.choose box c) (fun index s => index = g.index c ∧ P s) E := by
  intro run gestures holds
  subst gestures
  exact ⟨rfl, rfl, holds⟩

end Gives

end Render

namespace ListPage

variable {σ δ : Type} {env : Backend σ δ} {g : Gestures} {E : Stop → Prop}

/-! ## The controls -/

/-- What the search field answers. -/
def enteredText (g : Gestures) (q : ListQuery) : String :=
  g.text "Search by incident name" (q.search.getD "")

/-- The term in the search field; an empty one is none. -/
def enteredTerm (g : Gestures) (q : ListQuery) : Option String :=
  ListQuery.given? (some (enteredText g q))

/-- The commander that is chosen. -/
def enteredCommander (g : Gestures) (people : List UserProfile) (q : ListQuery) : Option String :=
  (commanderOptions people).getD (g.index (commanderChoice people q)) none

/-- The status that is chosen. -/
def enteredStatus (g : Gestures) (q : ListQuery) : StatusFilter :=
  StatusFilter.every.getD (g.index (statusChoice q)) .all

/-- The dashboard once the search field was read: a term that is not the one of the query waits. -/
def typed (g : Gestures) (d : Dashboard σ δ) : Dashboard σ δ :=
  if enteredTerm g d.query ≠ d.query.search then
    d.withScene (d.scene.type (.text (enteredText g d.query)))
  else d

theorem typed_filtering (env : Backend σ δ) {d : Dashboard σ δ} (ready : d.scene.Ready) :
    Scene.Filtering env d.scene (enteredTerm g d.query) d.query.commander d.query.status 1
      (typed g d).scene := by
  unfold typed
  split
  · exact .type env ready (enteredText g d.query)
  · rename_i same
    rw [not_not.1 same]
    exact (Scene.Filtering.start env ready).mono (Nat.zero_le 1)

theorem searchField_gives (box : Box) (d : Dashboard σ δ) :
    Render.Gives g (· = d) (searchField box d.query) (fun _ t => t = typed g d) E := by
  unfold searchField
  refine (Render.Gives.textInput _ _ _).bind fun term => ?_
  split
  · rename_i other
    refine .update ?_
    rintro t ⟨rfl, rfl⟩
    exact ⟨_, rfl, (if_pos other).symm⟩
  · rename_i same
    refine (Render.Gives.pure ()).pre ?_
    rintro t ⟨rfl, rfl⟩
    exact (if_neg same).symm

/-- The commander that is chosen is set, if he is not the one that the page began with. -/
theorem commanderField_gives (box : Box) (people : List UserProfile) {d : Dashboard σ δ}
    (filled : d.query.Filled) {search : Option String} {status : Option StatusFilter} {n : Nat} :
    Render.Gives g
      (fun t => Scene.Filtering env d.scene search d.query.commander status n t.scene)
      (commanderField box people d.query)
      (fun _ t => Scene.Filtering env d.scene search
        (ListQuery.given? (enteredCommander g people d.query)) status (n + 1) t.scene) E := by
  unfold commanderField
  refine (Render.Gives.choose _ _).bind fun index => ?_
  dsimp only
  split
  · refine .update ?_
    rintro t ⟨rfl, F⟩
    obtain ⟨s, sent, filtering⟩ := F.setCommander (enteredCommander g people d.query)
    refine ⟨t.withScene s, ?_, filtering⟩
    rw [enteredCommander] at sent
    rw [sent]
    rfl
  · rename_i same
    refine (Render.Gives.pure ()).pre ?_
    rintro t ⟨rfl, F⟩
    have chosen : enteredCommander g people d.query = d.query.commander := not_not.1 same
    rw [chosen, ListQuery.given?_eq_self filled.commander]
    exact F.mono (Nat.le_succ n)

/-- The status that is chosen is set, if it is not the one that the page began with. -/
theorem statusField_gives (box : Box) {d : Dashboard σ δ} {search commander : Option String}
    {n : Nat} :
    Render.Gives g
      (fun t => Scene.Filtering env d.scene search commander d.query.status n t.scene)
      (statusField box d.query)
      (fun _ t => ∃ status, status.getD .all = enteredStatus g d.query ∧
        Scene.Filtering env d.scene search commander status (n + 1) t.scene) E := by
  unfold statusField
  refine (Render.Gives.choose _ _).bind fun index => ?_
  dsimp only
  split
  · refine .update ?_
    rintro t ⟨rfl, F⟩
    obtain ⟨s, sent, filtering⟩ := F.setStatus (enteredStatus g d.query)
    refine ⟨t.withScene s, ?_, some (enteredStatus g d.query), rfl, filtering⟩
    rw [enteredStatus] at sent
    rw [sent]
    rfl
  · rename_i same
    refine (Render.Gives.pure ()).pre ?_
    rintro t ⟨rfl, F⟩
    exact ⟨d.query.status, (not_not.1 same).symm, F.mono (Nat.le_succ n)⟩

theorem commanderOptions_filtering {d t : Dashboard σ δ} {search commander : Option String}
    {status : Option StatusFilter} {n : Nat}
    (F : Scene.Filtering env d.scene search commander status n t.scene) :
    Scene.Filtering env d.scene search commander status n (t.commanderOptions env).2.scene := by
  obtain ⟨h, drifts⟩ := Scene.commanderOptions_drifts env t.scene
  exact F.drifts drifts (Scene.commanderOptions_free env F.callers)

theorem controls_gives {d : Dashboard σ δ} (ready : d.scene.Ready) (filled : d.query.Filled) :
    Render.Gives g (· = d) (controls env)
      (fun people t => ((typed g d).commanderOptions env).1 = .ok people ∧
        Scene.Filtered env d.scene (enteredTerm g d.query)
          (ListQuery.given? (enteredCommander g people d.query)) (enteredStatus g d.query) t.scene)
      (fun stop => ∃ f, ((typed g d).commanderOptions env).1 = .error f ∧ stop = .failed f) := by
  unfold controls
  refine Render.Gives.read ((Render.Gives.columns _).bind fun column => ?_)
  refine (searchField_gives _ d).bind fun _ => ?_
  refine Render.Gives.bind (Q := fun people t =>
    ((typed g d).commanderOptions env).1 = .ok people ∧
      Scene.Filtering env d.scene (enteredTerm g d.query) d.query.commander d.query.status 1
        t.scene) (.act ?_ ?_) fun people => ?_
  · rintro t people rfl found
    exact ⟨found, commanderOptions_filtering (typed_filtering env ready)⟩
  · rintro t f rfl failed
    exact ⟨f, failed, rfl⟩
  refine .assume fun found => (commanderField_gives _ people filled).bind fun _ => ?_
  refine (statusField_gives _).bind fun _ => ?_
  refine Render.Gives.bind (Q := fun _ t => Scene.Filtered env d.scene (enteredTerm g d.query)
    (ListQuery.given? (enteredCommander g people d.query)) (enteredStatus g d.query) t.scene)
    (.update ?_) fun _ => ?_
  · rintro t ⟨status, chosen, F⟩
    exact ⟨_, rfl, chosen ▸ F.waitIdle ready⟩
  · exact (Render.Gives.pure people).pre fun t filtered => ⟨found, filtered⟩

/-- A dashboard is mounted with nothing under way, on a query that is reached. -/
theorem ready_of_mount {settings : Settings} {source : σ} {people : δ} {team name : String}
    {d : Dashboard σ δ} (mounted : Dashboard.mount settings source people team name = .ok d) :
    d.scene.Ready ∧ d.query.Reached := by
  obtain ⟨first, read, rfl⟩ := Failure.map_eq_ok_iff.1 mounted
  exact ⟨.start source people first settings.quietTime settings.resetPage,
    settings, team, first, settings.resetPage, [], read, rfl⟩

/-- Whatever is entered, whatever the calls answer and however long they take: the controls stop
early only if the commanders cannot be looked up. Otherwise the query has in the end the filters
that they show, on the first page if one of them is new and that is wanted, and is else as it was.
At most three fetches were issued, the last one for that query, and the list shows how it went. -/
theorem controls_entered {env : Backend σ δ} {run : Run (Dashboard σ δ)}
    (ready : run.state.scene.Ready) (reached : run.state.query.Reached) :
    let d := run.state
    let g := run.gestures
    let found := ((typed g d).commanderOptions env).1
    let after := controls env run
    (∀ f, found = .error f → after.1 = .error (.failed f)) ∧
      ∀ people, found = .ok people → after.1 = .ok people ∧
        Scene.Filtered env d.scene (enteredTerm g d.query)
          (ListQuery.given? (enteredCommander g people d.query)) (enteredStatus g d.query)
          after.2.state.scene := by
  intro d g found after
  have gives := @controls_gives _ _ env g d ready reached.filled
  obtain ⟨-, ended⟩ := gives run rfl rfl
  cases outcome : (controls env run).1 with
  | ok people =>
    rw [outcome] at ended
    obtain ⟨answered, filtered⟩ := ended
    refine ⟨fun f failed => ?_, fun others same => ?_⟩
    · simp [found, answered] at failed
    · obtain rfl : people = others := by simpa [found, answered] using same
      exact ⟨rfl, filtered⟩
  | error stop =>
    rw [outcome] at ended
    obtain ⟨f, unanswered, rfl⟩ := ended
    refine ⟨fun other failed => ?_, fun people answered => ?_⟩
    · obtain rfl : f = other := by simpa [found, unanswered] using failed
      rfl
    · simp [found, unanswered] at answered

/-- All three filters are entered anew, and the term counts while the commanders are looked up. -/
theorem controls_entered_of_slow_lookup :
    let env : Backend Script Roster := ⟨Script.provider, Roster.directory⟩
    let d := filteredBoard ⟨400, some (.ok (.list [.object [("user_id", .text "u1")]]))⟩
    let g : Gestures := ⟨none, [("Search by incident name", .text "web"), ("Commander", .int 0),
      ("Status", .int 2)]⟩
    let lookup := (typed g d).commanderOptions env.recorded
    let after := (controls env.recorded ⟨d, [], 0, g⟩).2.state
    d.scene.Ready ∧ d.query.Reached ∧ (typed g d).query.search = some "db" ∧
      lookup.1 = .ok [.bare "u1"] ∧ lookup.2.query.search = some "web" ∧
      Scene.Filtered env.recorded d.scene (some "web") none .ended after.scene ∧
      after.query.page = 0 ∧ after.list.query = some after.query := by
  intro env d g lookup after
  have ready : d.scene.Ready := ⟨⟨rfl, rfl⟩, rfl, rfl⟩
  have found : lookup.1 = .ok [.bare "u1"] := by
    have listed : lookup.1.toOption = some [.bare "u1"] := by decide +kernel
    cases answer : lookup.1 <;> simp_all [Except.toOption]
  obtain ⟨-, entered⟩ := @controls_entered _ _ env.recorded ⟨d, [], 0, g⟩ ready filtered_reached
  obtain ⟨-, filtered⟩ := entered [.bare "u1"] found
  have term : enteredTerm g d.query = some "web" := by decide +kernel
  have commander : ListQuery.given? (enteredCommander g [.bare "u1"] d.query) = none := by
    decide +kernel
  have status : enteredStatus g d.query = .ended := by decide +kernel
  rw [term, commander, status] at filtered
  exact ⟨ready, filtered_reached, rfl, found, by decide +kernel, filtered, by decide +kernel,
    by decide +kernel⟩

end ListPage

end IncidentBoard.Screen
