import IncidentBoard.Proofs.Runs
import IncidentBoard.Proofs.Scene.Potential

/-!
# Callers who wait

While a caller waits for a reply of its own, whatever else is under way goes on. A caller who
pauses waits for a turn of its own, one who looks up people for the turn that follows the last
lookup. That turn comes, however long the calls take, and nothing of the caller is left behind.

## Main definitions

* `Scene.Drift` — what happens while a caller waits.
* `Scene.Waits` — what a caller waits for is on the agenda; `Scene.Waits.untilResumed` — it comes.
* `Scene.commanderOptions_drifts`, `Scene.commanderOptions_free` — the lookup of the commanders.
-/

namespace IncidentBoard

namespace Scene

variable {σ δ : Type} {s t u : Scene σ δ} {turn : Turn}

/-! ## What happens meanwhile -/

/-- What happens while a caller waits: a turn is run, or the caller does something of its own. -/
inductive Drift (env : Backend σ δ) : Scene σ δ → History → Scene σ δ → Prop
  | turn {s u : Scene σ δ} {turn : Turn} (take : Takes s turn u) :
      Drift env s (u.turnEvents env turn) (u.run env turn)
  | caller {s t : Scene σ δ} (aside : Aside .caller s t) : Drift env s [] t

theorem Lets.drifts {env : Backend σ δ} {h : History} (run : Lets env s h t) :
    Runs (Drift env) s h t := by
  induction run with
  | start => exact .start
  | turn _ take ih => exact ih.step (.turn take)

section Drifts

variable (env : Backend σ δ)

theorem runWhile_drifts (s : Scene σ δ) (go : Scene σ δ → Bool) (limit : Option Nat) (fuel : Nat) :
    ∃ h, Runs (Drift env) s h (s.runWhile env go limit fuel) := by
  induction fuel generalizing s with
  | zero => exact ⟨[], .start⟩
  | succ fuel ih =>
    unfold runWhile
    split
    · split
      · exact ⟨[], .start⟩
      · rename_i rest next
        exact ⟨_, .one (.turn (.next next))⟩
      · rename_i turn rest _ next
        have take : Takes s turn { s with agenda := rest } := .next next
        obtain ⟨h, run⟩ := ih ({ s with agenda := rest }.run env turn)
        exact ⟨_, (Runs.one (.turn take)).trans run⟩
    · exact ⟨[], .start⟩

theorem pause_drifts (s : Scene σ δ) (ms : Nat) : ∃ h, Runs (Drift env) s h (s.pause env ms) := by
  unfold pause
  split
  · exact ⟨[], .start⟩
  · have asleep : Aside .caller s (s.sleep ms .callerResumes) :=
      .sleep (.of_agenda rfl rfl rfl) ms rfl
    obtain ⟨h, run⟩ := runWhile_drifts env (s.sleep ms .callerResumes) (fun _ => true) none
      (s.sleep ms .callerResumes).potential
    exact ⟨_, (Runs.one (.caller asleep)).trans run⟩

end Drifts

/-! ## Lookups that are sent -/

/-- Lookups of people are on the agenda. -/
def sendLookups (s : Scene σ δ) (people : List (String × Nat)) : Scene σ δ :=
  people.foldl (fun s x => s.post (.lookupOpens x.2 x.1)) s

/-- The scene in which a caller waits for lookups. -/
def lookingUp (s : Scene σ δ) (ids : List String) : Scene σ δ :=
  { s with profiles := [], awaited := ids.length }.sendLookups ids.zipIdx

theorem lookUp_scene (env : Backend σ δ) {ids : List String} (someone : ids ≠ []) :
    (s.lookUp env ids).2 = (s.lookingUp ids).untilResumed env := by
  simp only [lookUp, someone, if_false]
  rfl

section Sent

variable (s : Scene σ δ) (people : List (String × Nat))

theorem sendLookups_aside : Aside .caller s (s.sendLookups people) := by
  induction people generalizing s with
  | nil => exact .of_agenda rfl rfl rfl
  | cons x rest ih =>
    have posted : Aside .caller s (s.post (.lookupOpens x.2 x.1)) :=
      .post (.of_agenda rfl rfl rfl) rfl
    exact posted.trans (ih (s.post (.lookupOpens x.2 x.1)))

theorem sendLookups_awaited : (s.sendLookups people).awaited = s.awaited := by
  induction people generalizing s with
  | nil => rfl
  | cons x rest ih => exact ih (s.post (.lookupOpens x.2 x.1))

theorem sendLookups_profiles : (s.sendLookups people).profiles = s.profiles := by
  induction people generalizing s with
  | nil => rfl
  | cons x rest ih => exact ih (s.post (.lookupOpens x.2 x.1))

theorem sendLookups_turns :
    ((s.sendLookups people).turnsOf .caller).Perm
      (people.reverse.map (fun x => Turn.lookupOpens x.2 x.1) ++ s.turnsOf .caller) := by
  induction people generalizing s with
  | nil => exact .refl _
  | cons x rest ih =>
    have posted := s.turnsOf_post (.lookupOpens x.2 x.1) .caller
    rw [List.reverse_cons, List.map_append, List.append_assoc]
    exact (ih (s.post (.lookupOpens x.2 x.1))).trans (posted.append_left _)

end Sent

section Drifts

variable (env : Backend σ δ)

theorem lookUp_drifts (s : Scene σ δ) (ids : List String) :
    ∃ h, Runs (Drift env) s h (s.lookUp env ids).2 := by
  by_cases none : ids = []
  · subst none
    exact ⟨[], .start⟩
  · have sent : Aside .caller s (s.lookingUp ids) :=
      Aside.trans (t := { s with profiles := [], awaited := ids.length }) (.of_agenda rfl rfl rfl)
        (sendLookups_aside _ _)
    rw [lookUp_scene env none]
    obtain ⟨h, run⟩ := runWhile_drifts env (s.lookingUp ids) (fun _ => true) Option.none
      (s.lookingUp ids).potential
    exact ⟨_, (Runs.one (.caller sent)).trans run⟩

/-- The lookup of the commanders lets whatever else is under way go on. -/
theorem commanderOptions_drifts (s : Scene σ δ) :
    ∃ h, Runs (Drift env) s h (s.commanderOptions env).2 := by
  have asked : Aside .caller s
      { s with source := (env.provider.commanders s.source s.board.query.team).2 } :=
    .of_agenda rfl rfl rfl
  obtain ⟨h, waited⟩ := pause_drifts env
    { s with source := (env.provider.commanders s.source s.board.query.team).2 }
    (env.provider.commanders s.source s.board.query.team).1.after
  unfold commanderOptions
  dsimp only
  split
  · exact ⟨_, (Runs.one (.caller asked)).trans waited⟩
  · obtain ⟨k, found⟩ := lookUp_drifts env _ _
    exact ⟨_, ((Runs.one (.caller asked)).trans waited).trans found⟩

end Drifts

/-! ## What a caller waits for -/

/-- A caller waits for the turn that tells it to go on, or for as many lookups as are under way. -/
inductive Waits (s : Scene σ δ) : Prop
  | resumption (turns : s.turnsOf .caller = [.callerResumes])
  | lookups (unresumed : .callerResumes ∉ s.turnsOf .caller)
      (count : s.awaited = (s.turnsOf .caller).length) (positive : 0 < s.awaited)

theorem Waits.turns_ne_nil (waits : Waits s) : s.turnsOf .caller ≠ [] := by
  intro none
  cases waits with
  | resumption turns => simp [turns] at none
  | lookups unresumed count positive => simp [count, none] at positive

/-- The turns of others leave alone what a caller waits for. -/
theorem run_of_other (env : Backend σ δ) (u : Scene σ δ) (other : turn.kind ≠ .caller) :
    (u.run env turn).awaited = u.awaited ∧ (u.run env turn).profiles = u.profiles := by
  cases turn with
  | searchOpens ticket =>
    simp only [run, openSearch]
    split <;> exact ⟨rfl, rfl⟩
  | searchFires ticket =>
    simp only [run]
    rcases fireSearch_cases env u ticket with ⟨fired, -⟩ | ⟨q, fired, -⟩ <;> rw [fired] <;>
      exact ⟨rfl, rfl⟩
  | fetchOpens f =>
    simp only [run, openFetch]
    split <;> exact ⟨rfl, rfl⟩
  | fetchReturns f o => exact ⟨rfl, rfl⟩
  | fetchRetires f => exact ⟨rfl, rfl⟩
  | selectOpens number id =>
    simp only [run, openSelect, takeDetail, askSummary]
    repeat' split
    all_goals exact ⟨rfl, rfl⟩
  | detailReturns number id o =>
    simp only [run, takeDetail, askSummary]
    repeat' split
    all_goals exact ⟨rfl, rfl⟩
  | summaryReturns number id o => exact ⟨rfl, rfl⟩
  | _ => exact absurd rfl other

/-- Only the end of a lookup lowers the number of those that are awaited. -/
theorem run_awaited (env : Backend σ δ) (u : Scene σ δ) (other : turn ≠ .lookupSettles) :
    (u.run env turn).awaited = u.awaited := by
  by_cases kind : turn.kind = .caller
  · cases turn with
    | lookupOpens number id =>
      simp only [run, openLookup]
      split <;> rfl
    | lookupReturns number o => rfl
    | lookupSettles => exact absurd rfl other
    | callerResumes => rfl
    | _ => cases kind
  · exact (run_of_other env u kind).1

/-- A lookup that is sent has another turn, at once or later. -/
theorem openLookup_turns (env : Backend σ δ) (u : Scene σ δ) (number : Nat) (id : String) :
    ∃ next : Turn, next ≠ .callerResumes ∧
      ((u.openLookup env number id).turnsOf .caller).Perm (next :: u.turnsOf .caller) := by
  unfold openLookup
  dsimp only
  split
  · exact ⟨.lookupSettles, by simp, turnsOf_post _ _ .caller⟩
  · exact ⟨.lookupReturns number (env.directory.profile u.people id).1.outcome, by simp,
      turnsOf_sleep _ _ _ .caller⟩

/-- What a caller waits for is told by its turns and the number of those that are awaited. -/
theorem Waits.congr (waits : Waits s) (awaited : t.awaited = s.awaited)
    (turns : (t.turnsOf .caller).Perm (s.turnsOf .caller)) : Waits t := by
  cases waits with
  | resumption resumed => exact .resumption (List.perm_singleton.1 (resumed ▸ turns))
  | lookups unresumed count positive =>
    refine .lookups (fun resumed => unresumed (turns.subset resumed)) ?_ (awaited ▸ positive)
    rw [awaited, count, turns.length_eq]

/-- A caller who sent lookups waits for them. -/
theorem Waits.lookingUp {ids : List String} (free : s.turnsOf .caller = []) (someone : ids ≠ []) :
    Waits (s.lookingUp ids) := by
  have turns := sendLookups_turns { s with profiles := [], awaited := ids.length } ids.zipIdx
  have awaited := sendLookups_awaited { s with profiles := [], awaited := ids.length } ids.zipIdx
  have unheld : turnsOf { s with profiles := [], awaited := ids.length } .caller = [] := free
  rw [unheld, List.append_nil] at turns
  refine .lookups ?_ ?_ ?_
  · intro resumed
    simpa using turns.subset resumed
  · rw [Scene.lookingUp, awaited, turns.length_eq]
    simp
  · rw [Scene.lookingUp, awaited]
    exact List.length_pos_iff.2 someone

/-- A lookup goes on, and the caller waits for it as before. -/
theorem Waits.of_lookup {next : Turn} (unresumed : .callerResumes ∉ s.turnsOf .caller)
    (count : s.awaited = (s.turnsOf .caller).length) (positive : 0 < s.awaited)
    (before : (s.turnsOf .caller).Perm (turn :: u.turnsOf .caller))
    (after : (t.turnsOf .caller).Perm (next :: u.turnsOf .caller)) (other : next ≠ .callerResumes)
    (awaited : t.awaited = s.awaited) : Waits t := by
  refine .lookups ?_ ?_ (awaited ▸ positive)
  · intro resumed
    rcases List.mem_cons.1 (after.subset resumed) with same | kept
    · exact other same.symm
    · exact unresumed (before.symm.subset (.tail _ kept))
  · rw [awaited, count, before.length_eq, after.length_eq]
    rfl

theorem Waits.settle (unresumed : .callerResumes ∉ s.turnsOf .caller)
    (count : s.awaited = (s.turnsOf .caller).length)
    (before : (s.turnsOf .caller).Perm (turn :: u.turnsOf .caller))
    (awaited : u.awaited = s.awaited) : Waits u.settleLookup := by
  have left : u.awaited - 1 = (u.turnsOf .caller).length := by
    rw [awaited, count, before.length_eq, List.length_cons]
    omega
  unfold settleLookup
  dsimp only
  split
  · rename_i last
    have none : u.turnsOf .caller = [] := List.length_eq_zero_iff.1 (left ▸ last)
    refine .resumption (List.perm_singleton.1 ?_)
    exact none ▸ turnsOf_post { u with awaited := u.awaited - 1 } .callerResumes .caller
  · rename_i more
    refine .lookups (fun resumed => unresumed (before.symm.subset (.tail _ resumed))) left ?_
    exact Nat.pos_of_ne_zero more

/-- Until the caller goes on, every turn leaves it waiting. -/
theorem Waits.takes (waits : Waits s) (env : Backend σ δ) (take : Takes s turn u)
    (other : turn ≠ .callerResumes) : Waits (u.run env turn) := by
  have awaited : u.awaited = s.awaited := by rw [take.scene]
  by_cases kind : turn.kind = .caller
  · have before := turnsOf_of_perm take.turns .caller
    rw [if_pos kind] at before
    cases waits with
    | resumption turns =>
      rw [turns] at before
      exact absurd (List.mem_singleton.1 (before.symm.subset (.head _))) other
    | lookups unresumed count positive =>
      cases turn with
      | lookupOpens number id =>
        obtain ⟨next, unlike, after⟩ := openLookup_turns env u number id
        have same : (u.openLookup env number id).awaited = s.awaited :=
          (@run_awaited _ _ (.lookupOpens number id) env u (by simp)).trans awaited
        exact .of_lookup unresumed count positive before after unlike same
      | lookupReturns number o =>
        have after := turnsOf_post { u with profiles := u.profiles ++ [(number, o)] }
          .lookupSettles .caller
        exact .of_lookup unresumed count positive before after (by simp) awaited
      | lookupSettles => exact .settle unresumed count before awaited
      | callerResumes => exact absurd rfl other
      | _ => cases kind
  · have turns : ((u.run env turn).turnsOf .caller).Perm (s.turnsOf .caller) :=
      (run_turnsOf u kind (by decide)).trans (take.turnsOf_of_ne kind).symm
    have same : (u.run env turn).awaited = s.awaited :=
      (run_of_other env u kind).1.trans awaited
    exact waits.congr same turns

/-- A caller who waits has a turn to wait for. -/
theorem Waits.next (waits : Waits s) :
    ∃ turn rest, s.agenda.next? none = some (turn, rest) := by
  cases next : s.agenda.next? none with
  | none =>
    refine absurd ?_ waits.turns_ne_nil
    simp [turnsOf, Agenda.turns_of_next_none next]
  | some due => exact ⟨due.1, due.2, rfl⟩

theorem Waits.resumes (waits : Waits s) (take : Takes s .callerResumes u) :
    u.turnsOf .caller = [] := by
  have before : (s.turnsOf .caller).Perm (.callerResumes :: u.turnsOf .caller) :=
    turnsOf_of_perm take.turns .caller
  cases waits with
  | resumption turns =>
    rw [turns] at before
    exact ((List.perm_cons _).1 before).symm.eq_nil
  | lookups unresumed => exact absurd (before.symm.subset (.head _)) unresumed

/-- A caller who waits comes to the turn that tells it to go on, and what every turn before it
preserves holds then. -/
theorem Waits.comes {P : Scene σ δ → Prop} (waits : Waits s) (env : Backend σ δ) {fuel : Nat}
    (enough : s.potential ≤ fuel) (before : P s)
    (kept : ∀ {s u : Scene σ δ} {turn : Turn}, P s → Takes s turn u → turn ≠ .callerResumes →
      P (u.run env turn)) :
    ∃ v, P v ∧ Waits v ∧ Takes v .callerResumes (s.runWhile env (fun _ => true) none fuel) := by
  induction fuel generalizing s with
  | zero =>
    obtain ⟨turn, rest, next⟩ := waits.next
    have take : Takes s turn { s with agenda := rest } := .next next
    have lower := @Takes.run_potential _ _ env _ _ _ take
    omega
  | succ fuel ih =>
    obtain ⟨turn, rest, next⟩ := waits.next
    have take : Takes s turn { s with agenda := rest } := .next next
    have lower := @Takes.run_potential _ _ env _ _ _ take
    have goes := fun other => ih (waits.takes env take other) (by omega) (kept before take other)
    cases turn with
    | callerResumes =>
      simp only [Scene.runWhile, next, if_true]
      exact ⟨s, before, waits, take⟩
    | _ =>
      simp only [Scene.runWhile, next, if_true]
      exact goes (by simp)

/-- A caller who waits goes on in the end, and nothing of it is left on the agenda. -/
theorem Waits.untilResumed (waits : Waits s) (env : Backend σ δ) :
    (s.untilResumed env).turnsOf .caller = [] := by
  obtain ⟨v, -, waits, take⟩ := waits.comes env (Nat.le_refl _) (P := fun _ => True) trivial
    fun _ _ _ => trivial
  exact waits.resumes take

/-! ## No caller waits any more -/

theorem pause_free (env : Backend σ δ) (ms : Nat) (free : s.turnsOf .caller = []) :
    (s.pause env ms).turnsOf .caller = [] := by
  unfold pause
  split
  · exact free
  · refine Waits.untilResumed (.resumption (List.perm_singleton.1 ?_)) env
    exact free ▸ s.turnsOf_sleep ms .callerResumes .caller

theorem lookUp_free (env : Backend σ δ) (ids : List String) (free : s.turnsOf .caller = []) :
    (s.lookUp env ids).2.turnsOf .caller = [] := by
  by_cases none : ids = []
  · subst none
    exact free
  · rw [lookUp_scene env none]
    exact (Waits.lookingUp free none).untilResumed env

/-- After the lookup of the commanders no caller waits. -/
theorem commanderOptions_free (env : Backend σ δ) (free : s.turnsOf .caller = []) :
    (s.commanderOptions env).2.turnsOf .caller = [] := by
  have waited := pause_free env (env.provider.commanders s.source s.board.query.team).1.after
    (s := { s with source := (env.provider.commanders s.source s.board.query.team).2 }) free
  unfold commanderOptions
  dsimp only
  split
  · exact waited
  · exact lookUp_free env _ waited

end Scene

end IncidentBoard
