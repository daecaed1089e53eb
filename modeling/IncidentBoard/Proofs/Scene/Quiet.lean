import IncidentBoard.Proofs.Scene.Calls

/-!
# Quiet scenes

While no search term waits and no fetch is on the agenda, nothing that happens of itself concerns
the list: the board stays as it is, and the provider is asked for no list. To look up commanders
only lets time pass, so that this holds of it too, whatever is answered and however long it takes.

## Main definitions

* `Scene.Quiet` — no search term waits, and no fetch is on the agenda.
* `Scene.listCalls` — the lists that the provider was asked for.
* `Scene.Stays` — while no search term waits, the query and the fetch issued last are as they were.
* `Scene.Rests` — while a scene is quiet, the board is as it was and no list is asked for.
* `Scene.Rests.commanderOptions`, `Scene.Rests.waitIdle` — what leaves a scene at rest.
-/

namespace IncidentBoard

/-- Whether a call asks for a list. -/
def Request.ofList : Request → Bool
  | .list _ => true
  | _ => false

namespace Scene

variable {σ δ : Type}

/-- No search term waits, and no fetch is on the agenda. -/
structure Quiet (s : Scene σ δ) : Prop where
  search : s.search.waiting = none
  fetches : s.turnsOf .fetch = []

/-- The lists that the provider was asked for, in order. -/
def listCalls (s : Scene (σ × List Request) δ) : List Request := s.source.2.filter Request.ofList

/-- The board is as it was, no list was asked for, and the scene is quiet. -/
structure Rests (s t : Scene (σ × List Request) δ) : Prop where
  board : t.board = s.board
  calls : t.listCalls = s.listCalls
  quiet : t.Quiet

/-! ## Quiet scenes that are reached -/

theorem quiet_abandon {s : Scene σ δ} : s.abandon.Quiet := ⟨rfl, rfl⟩

/-- When no fetch is under way, none is on the agenda. -/
theorem turnsOf_fetch_eq_nil {env : Backend σ δ} {h : History} {b : Board} {s : Scene σ δ}
    (tracks : b.Tracks env h (s.turnsOf .fetch)) (idle : b.fetching = false) :
    s.turnsOf .fetch = [] := by
  refine List.eq_nil_iff_forall_not_mem.2 fun turn member => ?_
  have none := List.filterMap_eq_nil_iff.1 (tracks.turns_of_not_fetching idle) turn member
  have kind : turn.kind = .fetch := by simpa using List.of_mem_filter member
  cases turn <;> simp [Turn.kind, Turn.fetch?] at kind none

/-- Along every run a scene is quiet where it is not busy. -/
theorem Reaches.quiet {env : Backend σ δ} {source : σ} {people : δ} {q : ListQuery}
    {quietTime : Int} {resetPage : Bool} {h : History} {s : Scene σ δ}
    (run : Reaches env (Scene.start source people q quietTime resetPage) h s)
    (idle : s.busy = false) : s.Quiet := by
  simp only [busy, Debouncer.pending, Bool.or_eq_false_iff, Option.isSome_eq_false_iff,
    Option.isNone_iff_eq_none] at idle
  exact ⟨idle.1, turnsOf_fetch_eq_nil run.tracks idle.2⟩

/-! ## Calls -/

section Calls

variable {env : Backend σ δ} (s : Scene (σ × List Request) δ) (number : Nat) (id : String)

theorem listCalls_append (source : σ) {r : Request} (other : r.ofList = false) :
    listCalls { s with source := (source, s.source.2 ++ [r]) } = s.listCalls := by
  simp [listCalls, List.filter_append, other]

theorem askSummary_listCalls : (s.askSummary env.recorded number id).listCalls = s.listCalls := by
  have asked := s.listCalls_append (env.provider.summary s.source.1 id).2 (r := .summary id) rfl
  unfold askSummary
  dsimp only
  split <;> exact asked

theorem takeDetail_listCalls (o : Except Failure IncidentDetail) :
    (s.takeDetail env.recorded number id o).listCalls = s.listCalls := by
  cases o with
  | ok d => rfl
  | error f => exact s.askSummary_listCalls number id

theorem openSelect_listCalls : (s.openSelect env.recorded number id).listCalls = s.listCalls := by
  have asked := s.listCalls_append (env.provider.detail s.source.1 id).2 (r := .detail id) rfl
  unfold openSelect
  split
  · rfl
  · dsimp only
    split
    · rw [takeDetail_listCalls]
      exact asked
    · exact asked

/-- Only the turn that sends a fetch asks for a list. -/
theorem run_listCalls {turn : Turn} (other : turn.kind ≠ .fetch) :
    (s.run env.recorded turn).listCalls = s.listCalls := by
  cases turn with
  | searchOpens ticket =>
    simp only [run, openSearch]
    split <;> rfl
  | searchFires ticket =>
    change (s.fireSearch ticket).listCalls = _
    rcases fireSearch_cases env.recorded s ticket with ⟨fired, -⟩ | ⟨q, fired, -⟩ <;>
      rw [fired] <;> rfl
  | selectOpens number id => exact s.openSelect_listCalls number id
  | detailReturns number id o => exact s.takeDetail_listCalls number id o
  | lookupOpens number id =>
    simp only [run, openLookup]
    split <;> rfl
  | lookupSettles =>
    simp only [run, settleLookup]
    split <;> rfl
  | fetchOpens f => exact absurd rfl other
  | fetchReturns f o => exact absurd rfl other
  | fetchRetires f => exact absurd rfl other
  | _ => rfl

end Calls

/-! ## Timed runs -/

/-- What every turn preserves, a timed run preserves. -/
theorem runWhile_preserves {env : Backend σ δ} {P : Scene σ δ → Prop} {s : Scene σ δ}
    (kept : ∀ {s u : Scene σ δ} {turn}, P s → Takes s turn u → P (u.run env turn)) (before : P s)
    (go : Scene σ δ → Bool) (limit : Option Nat) (fuel : Nat) :
    P (s.runWhile env go limit fuel) := by
  induction fuel generalizing s with
  | zero => exact before
  | succ fuel ih =>
    unfold runWhile
    split
    · split
      · exact before
      · rename_i rest next
        exact kept before (.next next)
      · rename_i turn rest _ next
        exact ih (kept before (.next next))
    · exact before

/-- Only a search term that counts leads to a fetch. -/
theorem run_latest (env : Backend σ δ) (u : Scene σ δ) {turn : Turn} (other : turn.kind ≠ .search) :
    (u.run env turn).board.latest = u.board.latest := by
  cases turn with
  | searchOpens ticket => exact absurd rfl other
  | searchFires ticket => exact absurd rfl other
  | fetchOpens f =>
    simp only [run, openFetch]
    split
    · exact Board.complete_latest _ _ _
    · rfl
  | fetchReturns f o => exact Board.complete_latest _ _ _
  | fetchRetires f => rfl
  | _ => exact congrArg Board.latest (run_aside u (by simp [Turn.kind])).board

/-- The query in force and the fetch issued last are as they were, and no search term waits. -/
structure Stays (s t : Scene σ δ) : Prop where
  query : t.board.query = s.board.query
  latest : t.board.latest = s.board.latest
  search : t.search.waiting = none

/-- While no search term waits, turns issue no fetch. -/
theorem Stays.takes {env : Backend σ δ} {r s u : Scene σ δ} {turn : Turn} (stays : Stays r s)
    (take : Takes s turn u) : Stays r (u.run env turn) := by
  obtain ⟨query, latest, search⟩ : Stays r u :=
    ⟨take.board ▸ stays.query, take.board ▸ stays.latest, take.search ▸ stays.search⟩
  have undelivered : (u.run env turn).search.waiting = u.search.waiting ∧
      (u.run env turn).board.query = u.board.query := by
    refine (run_delivers u turn).term.resolve_right ?_
    rintro ⟨ticket, v, waited, -⟩
    rw [search] at waited
    cases waited
  refine ⟨undelivered.2.trans query, ?_, undelivered.1.trans search⟩
  by_cases kind : turn.kind = .search
  · cases turn with
    | searchOpens ticket =>
      simp only [run, openSearch]
      split <;> exact latest
    | searchFires ticket =>
      have nothing : u.run env (.searchFires ticket) = u := by
        simp [run, fireSearch, Debouncer.fire, search]
      rw [nothing]
      exact latest
    | _ => cases kind
  · exact (run_latest env u kind).trans latest

theorem Stays.waitIdle {r s : Scene σ δ} (stays : Stays r s) (env : Backend σ δ) :
    Stays r (s.waitIdle env) :=
  runWhile_preserves takes (runWhile_preserves takes stays _ _ _) _ _ _

/-! ## What rests -/

variable {env : Backend σ δ} {r s t u : Scene (σ × List Request) δ} {turn : Turn}

namespace Rests

theorem refl (quiet : s.Quiet) : Rests s s := ⟨rfl, rfl, quiet⟩

theorem trans (first : Rests r s) (second : Rests s t) : Rests r t :=
  ⟨second.board.trans first.board, second.calls.trans first.calls, second.quiet⟩

/-- The agenda may change, but for fetches. -/
theorem of_turns (rests : Rests r s) (board : t.board = s.board) (calls : t.listCalls = s.listCalls)
    (search : t.search = s.search) (turns : (t.turnsOf .fetch).Perm (s.turnsOf .fetch)) :
    Rests r t := by
  refine rests.trans ⟨board, calls, search ▸ rests.quiet.search, ?_⟩
  rw [rests.quiet.fetches] at turns
  exact turns.eq_nil

theorem post (rests : Rests r s) (other : turn.kind ≠ .fetch) : Rests r (s.post turn) :=
  rests.of_turns rfl rfl rfl (s.turnsOf_post_of_ne other)

theorem sleep (rests : Rests r s) (ms : Nat) (other : turn.kind ≠ .fetch) :
    Rests r (s.sleep ms turn) :=
  rests.of_turns rfl rfl rfl (s.turnsOf_sleep_of_ne ms other)

/-- A turn that is not of a fetch leaves a scene at rest. -/
theorem run (rests : Rests r s) (env : Backend σ δ) (other : turn.kind ≠ .fetch) :
    Rests r (s.run env.recorded turn) := by
  have beside (kind : turn.kind = .view ∨ turn.kind = .caller) :
      Rests r (s.run env.recorded turn) := by
    have aside := @run_aside _ _ env.recorded s _ kind
    exact rests.of_turns aside.board (s.run_listCalls other) aside.search (aside.turnsOf other.symm)
  cases turn with
  | searchOpens ticket =>
    simp only [Scene.run, openSearch]
    split
    · exact rests.sleep _ (by simp [Turn.kind])
    · exact rests.post (by simp [Turn.kind])
  | searchFires ticket =>
    have nothing : s.run env.recorded (.searchFires ticket) = s := by
      simp [Scene.run, fireSearch, Debouncer.fire, rests.quiet.search]
    rw [nothing]
    exact rests
  | fetchOpens f => exact absurd rfl other
  | fetchReturns f o => exact absurd rfl other
  | fetchRetires f => exact absurd rfl other
  | _ => exact beside (by simp [Turn.kind])

theorem takes (rests : Rests r s) (take : Takes s turn u) (env : Backend σ δ) :
    Rests r (u.run env.recorded turn) := by
  have other : turn.kind ≠ .fetch := by
    intro fetch
    have turns := turnsOf_of_perm take.turns .fetch
    simp [fetch, rests.quiet.fetches] at turns
  refine run (rests.of_turns take.board ?_ take.search ?_) env other
  · rw [listCalls, take.scene]
    rfl
  · exact (take.turnsOf_of_ne other).symm

theorem runWhile (rests : Rests r s) (env : Backend σ δ) (go : Scene (σ × List Request) δ → Bool)
    (limit : Option Nat) (fuel : Nat) : Rests r (s.runWhile env.recorded go limit fuel) :=
  runWhile_preserves (fun rests take => takes rests take env) rests go limit fuel

theorem pause (rests : Rests r s) (env : Backend σ δ) (ms : Nat) :
    Rests r (s.pause env.recorded ms) := by
  unfold Scene.pause
  split
  · exact rests
  · exact (rests.sleep ms (by simp [Turn.kind])).runWhile env _ _ _

/-- Looking up people leaves a scene at rest. -/
theorem lookUp (rests : Rests r s) (env : Backend σ δ) (ids : List String) :
    Rests r (s.lookUp env.recorded ids).2 := by
  unfold Scene.lookUp
  split
  · exact rests
  · refine runWhile ?_ env _ _ _
    have opened : ∀ (xs : List (String × Nat)) {t : Scene (σ × List Request) δ}, Rests r t →
        Rests r (xs.foldl (fun t x => t.post (.lookupOpens x.2 x.1)) t) := by
      intro xs
      induction xs with
      | nil => exact fun rests => rests
      | cons x xs ih => exact fun rests => ih (rests.post (by simp [Turn.kind]))
    exact opened _ (rests.of_turns rfl rfl rfl (.refl _))

/-- Asking for the commanders leaves a scene at rest, whatever is answered. -/
theorem commanderOptions (rests : Rests r s) (env : Backend σ δ) :
    Rests r (s.commanderOptions env.recorded).2 := by
  have asked := s.listCalls_append (env.provider.commanders s.source.1 s.board.query.team).2
    (r := .commanders s.board.query.team) rfl
  have waited := (rests.of_turns (t := { s with
    source := (env.recorded.provider.commanders s.source s.board.query.team).2 }) rfl asked rfl
    (.refl _)).pause env (env.recorded.provider.commanders s.source s.board.query.team).1.after
  unfold Scene.commanderOptions
  dsimp only
  split
  · exact waited
  · exact waited.lookUp env _

theorem waitIdle (rests : Rests r s) (env : Backend σ δ) : Rests r (s.waitIdle env.recorded) :=
  (rests.runWhile env _ _ _).runWhile env _ _ _

end Rests

end Scene

end IncidentBoard
