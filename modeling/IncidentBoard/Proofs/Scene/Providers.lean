import IncidentBoard.Proofs.Scene.Run

/-!
# The providers of a scene

Whatever is done in a scene, its providers only change by calls on them. So what no call changes of
a provider stays as it is.

## Main definitions

* `Backend.Preserves` — what no call changes.
* `Scene.Retains`, `Scene.run_retains`, `Scene.runWhile_retains` — it stays, over a turn and a run.
* `Scene.Use`, `Scene.Use.retains` — what is done in a scene.
-/

namespace IncidentBoard

variable {σ δ α β : Type} {env : Backend σ δ} {f : σ → α} {g : δ → β}

/-- Nothing that is told about the providers changes in a call. -/
structure Backend.Preserves (env : Backend σ δ) (f : σ → α) (g : δ → β) : Prop where
  list : ∀ s q, f (env.provider.list s q).2 = f s
  commanders : ∀ s team, f (env.provider.commanders s team).2 = f s
  detail : ∀ s id, f (env.provider.detail s id).2 = f s
  summary : ∀ s id, f (env.provider.summary s id).2 = f s
  profile : ∀ d id, g (env.directory.profile d id).2 = g d

namespace Scene

/-- What is told about the providers of a scene is told about those of a later one. -/
structure Retains (f : σ → α) (g : δ → β) (s t : Scene σ δ) : Prop where
  source : f t.source = f s.source
  people : g t.people = g s.people

namespace Retains

variable {s t u : Scene σ δ}

theorem refl (s : Scene σ δ) : Retains f g s s := ⟨rfl, rfl⟩

theorem trans (first : Retains f g s t) (second : Retains f g t u) : Retains f g s u :=
  ⟨second.source.trans first.source, second.people.trans first.people⟩

theorem foldl {γ : Type} {step : Scene σ δ → γ → Scene σ δ}
    (one : ∀ t x, Retains f g t (step t x)) (xs : List γ) (s : Scene σ δ) :
    Retains f g s (xs.foldl step s) := by
  induction xs generalizing s with
  | nil => exact .refl s
  | cons x rest ih => exact (one s x).trans (ih _)

end Retains

/-! ## Turns -/

section Turns

variable (s : Scene σ δ) (number : Nat) (id : String)

theorem dispatch_retains {s t : Scene σ δ} {a : Action} (ok : s.dispatch a = .ok t) :
    Retains f g s t := by
  rcases dispatch_cases ok with ⟨rfl, -⟩ | ⟨q, rfl, -⟩
  · exact .refl t
  · exact ⟨rfl, rfl⟩

theorem fireSearch_retains (env : Backend σ δ) (ticket : Nat) :
    Retains f g s (s.fireSearch ticket) := by
  rcases fireSearch_cases env s ticket with ⟨fired, -⟩ | ⟨q, fired, -⟩ <;> rw [fired] <;>
    exact ⟨rfl, rfl⟩

theorem openFetch_retains (kept : env.Preserves f g) (asked : Fetch) :
    Retains f g s (s.openFetch env asked) := by
  unfold openFetch
  dsimp only
  split <;> exact ⟨kept.list s.source asked.query, rfl⟩

theorem askSummary_retains (kept : env.Preserves f g) :
    Retains f g s (s.askSummary env number id) := by
  unfold askSummary
  dsimp only
  split <;> exact ⟨kept.summary s.source id, rfl⟩

theorem takeDetail_retains (kept : env.Preserves f g) (o : Except Failure IncidentDetail) :
    Retains f g s (s.takeDetail env number id o) := by
  cases o with
  | ok d => exact ⟨rfl, rfl⟩
  | error e => exact s.askSummary_retains number id kept

theorem openSelect_retains (kept : env.Preserves f g) :
    Retains f g s (s.openSelect env number id) := by
  unfold openSelect
  split
  · exact ⟨rfl, rfl⟩
  · next view begun =>
    let asked := { s with source := (env.provider.detail s.source id).2, view := view }
    have called : Retains f g s asked := ⟨kept.detail s.source id, rfl⟩
    dsimp only
    split
    · exact called.trans (asked.takeDetail_retains number id kept _)
    · exact called.trans ⟨rfl, rfl⟩

theorem openLookup_retains (kept : env.Preserves f g) :
    Retains f g s (s.openLookup env number id) := by
  unfold openLookup
  dsimp only
  split <;> exact ⟨rfl, kept.profile s.people id⟩

/-- A turn leaves the providers what they are. -/
theorem run_retains (kept : env.Preserves f g) (turn : Turn) : Retains f g s (s.run env turn) := by
  cases turn with
  | searchOpens ticket =>
    simp only [run, openSearch]
    split <;> exact ⟨rfl, rfl⟩
  | searchFires ticket => exact s.fireSearch_retains env ticket
  | fetchOpens asked => exact s.openFetch_retains kept asked
  | selectOpens number id => exact s.openSelect_retains number id kept
  | detailReturns number id o => exact s.takeDetail_retains number id kept o
  | lookupOpens number id => exact s.openLookup_retains number id kept
  | lookupSettles =>
    simp only [run, settleLookup]
    split <;> exact ⟨rfl, rfl⟩
  | _ => exact ⟨rfl, rfl⟩

/-- So does a run, however long it is. -/
theorem runWhile_retains (kept : env.Preserves f g) (go : Scene σ δ → Bool) (limit : Option Nat)
    (fuel : Nat) : Retains f g s (s.runWhile env go limit fuel) := by
  induction fuel generalizing s with
  | zero => exact .refl s
  | succ fuel ih =>
    unfold runWhile
    split
    · split
      · exact .refl s
      · exact ⟨rfl, rfl⟩
      · next turn rest _ _ =>
        have taken : Retains f g s { s with agenda := rest } := ⟨rfl, rfl⟩
        exact (taken.trans (run_retains _ kept turn)).trans (ih _)
    · exact .refl s

end Turns

/-! ## Callers who wait -/

section Callers

variable (s : Scene σ δ)

theorem pause_retains (kept : env.Preserves f g) (ms : Nat) : Retains f g s (s.pause env ms) := by
  unfold pause
  split
  · exact .refl s
  · have asleep : Retains f g s (s.sleep ms .callerResumes) := ⟨rfl, rfl⟩
    exact asleep.trans (runWhile_retains _ kept _ _ _)

theorem resolve_retains (kept : env.Preserves f g) (id : String) :
    Retains f g s (s.resolve env id).2 := by
  have asked : Retains f g s { s with source := (env.provider.detail s.source id).2 } :=
    ⟨kept.detail s.source id, rfl⟩
  have waited := asked.trans (pause_retains _ kept (env.provider.detail s.source id).1.after)
  unfold resolve
  dsimp only
  split
  · exact waited
  · have again (t : Scene σ δ) :
        Retains f g t { t with source := (env.provider.summary t.source id).2 } :=
      ⟨kept.summary t.source id, rfl⟩
    exact waited.trans ((again _).trans (pause_retains _ kept _))

theorem select_retains (kept : env.Preserves f g) (id : String) :
    Retains f g s (s.select env id).2 := by
  unfold select
  split
  · exact .refl s
  · next view begun =>
    have shown : Retains f g s { s with view := view } := ⟨rfl, rfl⟩
    exact (shown.trans (resolve_retains _ kept id)).trans ⟨rfl, rfl⟩

theorem lookUp_retains (kept : env.Preserves f g) (ids : List String) :
    Retains f g s (s.lookUp env ids).2 := by
  unfold lookUp
  split
  · exact .refl s
  · have awaited : Retains f g s { s with profiles := [], awaited := ids.length } := ⟨rfl, rfl⟩
    refine (awaited.trans (.foldl ?_ ids.zipIdx _)).trans (runWhile_retains _ kept _ _ _)
    exact fun t person => ⟨rfl, rfl⟩

theorem commanderOptions_retains (kept : env.Preserves f g) :
    Retains f g s (s.commanderOptions env).2 := by
  have asked : Retains f g s
      { s with source := (env.provider.commanders s.source s.board.query.team).2 } :=
    ⟨kept.commanders s.source s.board.query.team, rfl⟩
  have waited := asked.trans
    (pause_retains _ kept (env.provider.commanders s.source s.board.query.team).1.after)
  unfold commanderOptions
  dsimp only
  split
  · exact waited
  · exact waited.trans (lookUp_retains _ kept _)

end Callers

/-! ## Uses -/

/-- What is done in a scene: the list is loaded, changed by actions, and searched; incidents are
selected, at once or in the background, and closed; commanders are looked up; time passes; and what
is under way is dropped. -/
inductive Use where
  | load
  | dispatch (a : Action)
  | type (term : Json)
  | select (id : String)
  | startSelect (id : String)
  | close
  | commanderOptions
  | settle
  | advance (ms : Nat)
  | waitIdle
  | join
  | abandon

/-- The scene after a use. One that is refused leaves it as it is. -/
def Use.apply (env : Backend σ δ) (s : Scene σ δ) : Use → Scene σ δ
  | .load => (s.load env).toOption.getD s
  | .dispatch a => (s.dispatch a).toOption.getD s
  | .type term => s.type term
  | .select id => (s.select env id).2
  | .startSelect id => s.startSelect id
  | .close => s.close
  | .commanderOptions => (s.commanderOptions env).2
  | .settle => s.settle env
  | .advance ms => s.advance env ms
  | .waitIdle => s.waitIdle env
  | .join => s.join env
  | .abandon => s.abandon

theorem waitIdle_retains (kept : env.Preserves f g) (s : Scene σ δ) :
    Retains f g s (s.waitIdle env) :=
  .trans (s.runWhile_retains kept _ _ _) (runWhile_retains _ kept _ _ _)

/-- A use of a scene leaves its providers what they are. -/
theorem Use.retains (kept : env.Preserves f g) (s : Scene σ δ) (u : Use) :
    Retains f g s (u.apply env s) := by
  cases u with
  | load =>
    change Retains f g s ((s.load env).toOption.getD s)
    cases loaded : s.load env with
    | error e => exact .refl s
    | ok t =>
      obtain ⟨u, refreshed, rfl⟩ := Failure.map_eq_ok_iff.1 loaded
      exact (dispatch_retains refreshed).trans (u.waitIdle_retains kept)
  | dispatch a =>
    change Retains f g s ((s.dispatch a).toOption.getD s)
    cases dispatched : s.dispatch a with
    | error e => exact .refl s
    | ok t => exact dispatch_retains dispatched
  | select id => exact s.select_retains kept id
  | commanderOptions => exact s.commanderOptions_retains kept
  | settle => exact s.runWhile_retains kept _ _ _
  | advance ms => exact (s.runWhile_retains kept _ _ _).trans ⟨rfl, rfl⟩
  | waitIdle => exact s.waitIdle_retains kept
  | join => exact s.runWhile_retains kept _ _ _
  | _ => exact ⟨rfl, rfl⟩

end Scene

end IncidentBoard
