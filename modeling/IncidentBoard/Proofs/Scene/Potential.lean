import IncidentBoard.Proofs.Agenda.Timing
import IncidentBoard.Proofs.Scene.Run

/-!
# Waiting comes to an end

Every turn that is run lowers the number of turns still to come, so a run that is given that number
as its fuel never lacks any. It stops because its condition fails or because nothing is left to do,
and the order in which it takes turns is one of those in which a scene may take them.

## Main definitions

* `Scene.run_potential` — a turn and the turns it leads to.
* `Scene.Lets` — runs in which nothing but turns happens.
* `Scene.runWhile_lets`, `Scene.runWhile_ends` — a timed run is such a run, and how it ends.
* `Scene.Reaches.settle`, `Scene.Reaches.advance` — timed runs among all runs.
-/

namespace IncidentBoard

namespace Scene

variable {σ δ : Type} {env : Backend σ δ}

/-! ## The turns still to come -/

@[simp] theorem potential_post (s : Scene σ δ) (turn : Turn) :
    (s.post turn).potential = turn.weight + s.potential :=
  Agenda.total_of_perm Turn.weight (Agenda.turns_post s.agenda turn)

@[simp] theorem potential_sleep (s : Scene σ δ) (ms : Nat) (turn : Turn) :
    (s.sleep ms turn).potential = turn.weight + s.potential :=
  Agenda.total_of_perm Turn.weight (Agenda.turns_sleep s.agenda ms turn)

section View

variable (env : Backend σ δ) (s : Scene σ δ) (number : Nat) (id : String)

theorem askSummary_potential : (s.askSummary env number id).potential ≤ 1 + s.potential := by
  unfold askSummary
  dsimp only
  split
  · exact Nat.le_add_left _ _
  · exact Nat.le_of_eq (potential_sleep _ _ _)

theorem takeDetail_potential (o : Except Failure IncidentDetail) :
    (s.takeDetail env number id o).potential ≤ 1 + s.potential := by
  cases o with
  | ok d => exact Nat.le_add_left _ _
  | error f => exact askSummary_potential env s number id

theorem openSelect_potential : (s.openSelect env number id).potential ≤ 2 + s.potential := by
  unfold openSelect
  split
  · exact Nat.le_add_left _ _
  · dsimp only
    split
    · refine Nat.le_trans (takeDetail_potential env _ number id _) ?_
      exact Nat.add_le_add_right (by decide) _
    · exact Nat.le_of_eq (potential_sleep _ _ _)

theorem openLookup_potential : (s.openLookup env number id).potential ≤ 3 + s.potential := by
  unfold openLookup
  dsimp only
  split
  · refine Nat.le_trans (Nat.le_of_eq (potential_post _ .lookupSettles)) ?_
    exact Nat.add_le_add_right (by decide) _
  · exact Nat.le_of_eq (potential_sleep _ _ _)

theorem settleLookup_potential : s.settleLookup.potential ≤ 1 + s.potential := by
  unfold settleLookup
  dsimp only
  split
  · exact Nat.le_of_eq (potential_post _ .callerResumes)
  · exact Nat.le_add_left _ _

end View

/-- A turn leads to fewer turns than it counts for. -/
theorem run_potential (u : Scene σ δ) (turn : Turn) :
    (u.run env turn).potential < turn.weight + u.potential := by
  cases turn with
  | searchOpens ticket =>
    have opened : (u.openSearch ticket).potential = 4 + u.potential := by
      unfold openSearch
      split
      · exact potential_sleep _ _ _
      · exact potential_post _ _
    simp only [run, opened, Turn.weight]
    omega
  | searchFires ticket =>
    have fired : (u.fireSearch ticket).potential ≤ 3 + u.potential := by
      rcases fireSearch_cases env u ticket with ⟨fired, -⟩ | ⟨q, fired, -⟩ <;> rw [fired]
      · exact Nat.le_add_left _ _
      · exact Nat.le_of_eq (potential_post _ _)
    simp only [run, Turn.weight]
    omega
  | fetchOpens f =>
    have opened : (u.openFetch env f).potential ≤ 2 + u.potential := by
      unfold openFetch
      dsimp only
      split
      · refine Nat.le_trans (Nat.le_of_eq (potential_post _ (.fetchRetires f))) ?_
        exact Nat.add_le_add_right (Nat.le_succ 1) _
      · exact Nat.le_of_eq (potential_sleep _ _ _)
    simp only [run, Turn.weight]
    omega
  | fetchReturns f o =>
    have finished : (u.finishFetch f o).potential = 1 + u.potential :=
      potential_post _ (.fetchRetires f)
    simp only [run, finished, Turn.weight]
    omega
  | selectOpens number id =>
    have opened := openSelect_potential env u number id
    simp only [run, Turn.weight]
    omega
  | detailReturns number id o =>
    have taken := takeDetail_potential env u number id o
    simp only [run, Turn.weight]
    omega
  | lookupOpens number id =>
    have opened := openLookup_potential env u number id
    simp only [run, Turn.weight]
    omega
  | lookupReturns number o =>
    have finished : (u.finishLookup number o).potential = 2 + u.potential :=
      potential_post _ .lookupSettles
    simp only [run, finished, Turn.weight]
    omega
  | lookupSettles =>
    have settled := u.settleLookup_potential
    simp only [run, Turn.weight]
    omega
  | fetchRetires f => exact Nat.lt_add_of_pos_left Nat.one_pos
  | summaryReturns number id o => exact Nat.lt_add_of_pos_left Nat.one_pos
  | callerResumes => exact Nat.lt_add_of_pos_left Nat.one_pos

/-- A turn that is taken and run lowers the number of turns still to come. -/
theorem Takes.run_potential {s u : Scene σ δ} {turn : Turn} (take : Takes s turn u) :
    (u.run env turn).potential < s.potential := by
  have before : s.potential = turn.weight + u.potential :=
    Agenda.total_of_perm Turn.weight take.turns
  exact before ▸ u.run_potential turn

/-! ## Runs of turns -/

/-- The scenes that turns alone lead to, with what happened to fetches on the way. -/
inductive Lets (env : Backend σ δ) (s : Scene σ δ) : History → Scene σ δ → Prop
  | start : Lets env s [] s
  | turn {h : History} {t u : Scene σ δ} {turn : Turn} (run : Lets env s h t)
      (take : Takes t turn u) : Lets env s (h ++ turnEvents env u turn) (u.run env turn)

variable {s₀ s t u : Scene σ δ} {h k : History}

theorem Takes.lets {turn : Turn} (take : Takes s turn u) (run : Lets env (u.run env turn) k t) :
    Lets env s (turnEvents env u turn ++ k) t := by
  induction run with
  | start => simpa using Lets.turn .start take
  | turn run next ih =>
    rw [← List.append_assoc]
    exact .turn ih next

theorem Lets.trans (first : Lets env s h t) (second : Lets env t k u) : Lets env s (h ++ k) u := by
  induction second with
  | start => simpa using first
  | turn run take ih =>
    rw [← List.append_assoc]
    exact .turn ih take

theorem Reaches.lets (run : Reaches env s₀ h s) (turns : Lets env s k t) :
    Reaches env s₀ (h ++ k) t := by
  induction turns with
  | start => simpa using run
  | turn _ take ih =>
    rw [← List.append_assoc]
    exact ih.step (.turn take)

section

variable (env : Backend σ δ) (go : Scene σ δ → Bool) (limit : Option Nat)

/-- A timed run stops, or takes a turn and goes on, when no caller waits for a turn. -/
theorem runWhile_cases (free : s.turnsOf .caller = []) :
    ((go s = false ∨ s.agenda.next? limit = none) ∧ ∀ n, s.runWhile env go limit n = s) ∨
      ∃ turn u, Takes s turn u ∧ (u.run env turn).turnsOf .caller = [] ∧
        ∀ n, s.runWhile env go limit (n + 1) = (u.run env turn).runWhile env go limit n := by
  cases more : go s with
  | false =>
    refine .inl ⟨.inl rfl, fun n => ?_⟩
    cases n <;> simp [runWhile, more]
  | true =>
    cases next : s.agenda.next? limit with
    | none =>
      refine .inl ⟨.inr rfl, fun n => ?_⟩
      cases n <;> simp [runWhile, more, next]
    | some due =>
      obtain ⟨turn, rest⟩ := due
      have take : Takes s turn { s with agenda := rest } := .next next
      refine .inr ⟨turn, _, take, take.callerTurns free, fun n => ?_⟩
      cases turn with
      | callerResumes => exact absurd rfl (take.kind_ne_caller free)
      | _ => simp only [runWhile, more, next, if_true]

/-- A timed run is a run of turns. -/
theorem runWhile_lets (fuel : Nat) (free : s.turnsOf .caller = []) :
    (s.runWhile env go limit fuel).turnsOf .caller = [] ∧
      ∃ k, Lets env s k (s.runWhile env go limit fuel) := by
  induction fuel generalizing s with
  | zero => exact ⟨free, [], .start⟩
  | succ fuel ih =>
    rcases runWhile_cases env go limit free with ⟨-, stop⟩ | ⟨turn, u, take, freed, round⟩
    · rw [stop]
      exact ⟨free, [], .start⟩
    · rw [round]
      obtain ⟨ended, k, run⟩ := ih freed
      exact ⟨ended, _, take.lets run⟩

/-- A timed run with fuel for every turn still to come stops because its condition fails or because
nothing is due within the limit. -/
theorem runWhile_ends (fuel : Nat) (enough : s.potential ≤ fuel) (free : s.turnsOf .caller = []) :
    go (s.runWhile env go limit fuel) = false ∨
      (s.runWhile env go limit fuel).agenda.next? limit = none := by
  induction fuel generalizing s with
  | zero =>
    rcases runWhile_cases env go limit free with ⟨ended, -⟩ | ⟨turn, u, take, -, -⟩
    · exact ended
    · have lower : (u.run env turn).potential < s.potential := take.run_potential
      omega
  | succ fuel ih =>
    rcases runWhile_cases env go limit free with ⟨ended, stop⟩ | ⟨turn, u, take, freed, round⟩
    · rw [stop]
      exact ended
    · have lower : (u.run env turn).potential < s.potential := take.run_potential
      rw [round]
      exact ih (by omega) freed

/-- A run without a limit ends because its condition fails or because nothing is left to do. -/
theorem runWhile_exhausts (free : s.turnsOf .caller = []) :
    let ended := s.runWhile env go none s.potential
    ended.turnsOf .caller = [] ∧ (∃ k, Lets env s k ended) ∧
      (go ended = false ∨ ended.agenda.turns = []) := by
  intro ended
  obtain ⟨callers, lets⟩ := runWhile_lets env go none s.potential free
  have ends := runWhile_ends env go none s.potential (Nat.le_refl _) free
  exact ⟨callers, lets, ends.imp_right Agenda.turns_of_next_none⟩

/-- More fuel than there are turns still to come makes no difference. -/
theorem runWhile_fuel {m n : Nat} (hm : s.potential ≤ m) (hn : s.potential ≤ n)
    (free : s.turnsOf .caller = []) :
    s.runWhile env go limit m = s.runWhile env go limit n := by
  induction m generalizing s n with
  | zero =>
    rcases runWhile_cases env go limit free with ⟨-, stop⟩ | ⟨turn, u, take, -, -⟩
    · rw [stop, stop]
    · have lower : (u.run env turn).potential < s.potential := take.run_potential
      omega
  | succ m ih =>
    rcases runWhile_cases env go limit free with ⟨-, stop⟩ | ⟨turn, u, take, freed, round⟩
    · rw [stop, stop]
    · have lower : (u.run env turn).potential < s.potential := take.run_potential
      obtain ⟨n, rfl⟩ : ∃ k, n = k + 1 := ⟨n - 1, by omega⟩
      rw [round, round]
      exact ih (by omega) (by omega) freed

end

/-! ## Timed runs -/

variable {source : σ} {people : δ} {q : ListQuery} {quietTime : Int} {resetPage : Bool}

/-- Along every run no caller waits. -/
theorem Reaches.callerTurns
    (run : Reaches env (Scene.start source people q quietTime resetPage) h s) :
    s.turnsOf .caller = [] := by
  induction run with
  | start => rfl
  | step _ step ih => exact step.callerTurns ih

theorem Reaches.settle (run : Reaches env (Scene.start source people q quietTime resetPage) h s) :
    ∃ k, Reaches env (Scene.start source people q quietTime resetPage) (h ++ k) (s.settle env) := by
  obtain ⟨-, k, turns⟩ :=
    runWhile_lets env (fun _ => true) (some s.agenda.now) s.potential run.callerTurns
  exact ⟨k, run.lets turns⟩

theorem Reaches.advance (run : Reaches env (Scene.start source people q quietTime resetPage) h s)
    (ms : Nat) :
    ∃ k, Reaches env (Scene.start source people q quietTime resetPage) (h ++ k)
      (s.advance env ms) := by
  obtain ⟨-, k, turns⟩ :=
    runWhile_lets env (fun _ => true) (some (s.agenda.now + ms)) s.potential run.callerTurns
  refine ⟨k, ?_⟩
  rw [← List.append_nil (h ++ k)]
  exact (run.lets turns).step (.elsewhere ⟨rfl, rfl, [], .refl _, by simp⟩)

end Scene

end IncidentBoard
