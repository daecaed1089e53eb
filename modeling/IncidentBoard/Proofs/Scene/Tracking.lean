import IncidentBoard.Proofs.Scene.Run
import IncidentBoard.Provider.Script
import Mathlib.Data.List.Nodup
import Mathlib.Data.List.Perm.Subperm

/-!
# The board and its history

A board keeps track of what happened to its fetches: tokens number them in the order of issue, each
fetch that is issued is on the agenda until its outcome arrives, and the list shows what the history
says. Outcomes of fetches that are no longer the latest ones leave no trace.

## Main definitions

* `Board.Tracks` — board and turns are those that a history leads to.
* `Scene.Reaches.tracks` — along every run they are.
* `Scene.Reaches.shows_newest_timely` — the list shows the newest timely success, whatever the
  order of arrivals.
-/

namespace IncidentBoard

namespace Turn

/-- The fetch whose outcome is still to arrive. -/
def awaited? : Turn → Option Fetch
  | .fetchOpens f | .fetchReturns f _ => some f
  | _ => none

/-- The fetch of a turn. -/
def fetch? : Turn → Option Fetch
  | .fetchOpens f | .fetchReturns f _ | .fetchRetires f => some f
  | _ => none

end Turn

theorem History.mem_arrived {h : History} {f : Fetch} :
    f ∈ h.arrived ↔ ∃ o, FetchEvent.arrived f o ∈ h := by
  simp only [arrived, List.mem_filterMap]
  constructor
  · rintro ⟨e, he, hf⟩
    cases e with
    | arrived g o =>
      cases hf
      exact ⟨o, he⟩
    | _ => cases hf
  · rintro ⟨o, ho⟩
    exact ⟨_, ho, rfl⟩

theorem History.mem_of_mem_timelyAfter {last : Option Fetch} {h : History}
    {a : Fetch × Except Failure IncidentsPage} (ha : a ∈ timelyAfter last h) :
    FetchEvent.arrived a.1 a.2 ∈ h := by
  fun_induction timelyAfter last h with
  | case1 => cases ha
  | case2 last f rest ih => exact .tail _ (ih ha)
  | case3 last f r rest ih => exact .tail _ (ih ha)
  | case4 f o rest ih =>
    rcases List.mem_cons.1 ha with rfl | ha
    · exact .head _
    · exact .tail _ (ih ha)
  | case5 last f o rest hl ih => exact .tail _ (ih ha)

theorem History.mem_arrived_of_mem_timely {h : History} {a : Fetch × Except Failure IncidentsPage}
    (ha : a ∈ h.timely) : a.1 ∈ h.arrived :=
  mem_arrived.2 ⟨_, mem_of_mem_timelyAfter ha⟩

/-- The provider was asked for a fetch, and an outcome is that of its reply. -/
def History.Answers {σ δ : Type} (env : Backend σ δ) (h : History) (f : Fetch)
    (o : Except Failure IncidentsPage) : Prop :=
  ∃ source, .asked f (env.provider.list source f.query).1 ∈ h ∧
    (env.provider.list source f.query).1.outcome = o

theorem History.Answers.mono {σ δ : Type} {env : Backend σ δ} {h : History} {f : Fetch}
    {o : Except Failure IncidentsPage} (k : History) (a : h.Answers env f o) :
    (h ++ k).Answers env f o := by
  obtain ⟨source, asked, outcome⟩ := a
  exact ⟨source, List.mem_append_left k asked, outcome⟩

namespace Board

variable {σ δ : Type} {env : Backend σ δ} {h : History} {b : Board} {turns : List Turn}
  {f : Fetch} {o : Except Failure IncidentsPage}

/-- A board and the turns of its fetches are those that a history leads to. -/
structure Tracks (env : Backend σ δ) (h : History) (b : Board) (turns : List Turn) : Prop where
  tokens : h.issued.map Fetch.token = List.range' 1 b.latest
  query : ∀ f, h.lastIssued = some f → f.query = b.query
  fetches : (turns.filterMap Turn.awaited? ++ h.arrived).Perm h.issued
  inFlight : b.inFlight.Perm (turns.filterMap Turn.fetch?)
  known : (turns.filterMap Turn.fetch?).Subperm h.issued
  returns : ∀ f o, .fetchReturns f o ∈ turns → h.Answers env f o
  arrivals : ∀ f o, .arrived f o ∈ h → h.Answers env f o
  shown : h.Shows b.list
  settled : ∀ f page, h.lastIssued = some f → .arrived f (.ok page) ∈ h →
    b.list = .ofPage f.query page

namespace Tracks

/-! ### Tokens -/

theorem tokens_nodup (T : Tracks env h b turns) : (h.issued.map Fetch.token).Nodup := by
  rw [T.tokens]
  exact List.nodup_range'

theorem token_le (T : Tracks env h b turns) (hf : f ∈ h.issued) : f.token ≤ b.latest := by
  have member : f.token ∈ h.issued.map Fetch.token := List.mem_map_of_mem hf
  rw [T.tokens, List.mem_range'_1] at member
  omega

theorem token_lastIssued (T : Tracks env h b turns) (hf : h.lastIssued = some f) :
    f.token = b.latest := by
  have last : (h.issued.map Fetch.token).getLast? = some f.token := by
    rw [List.getLast?_map, ← History.lastIssued, hf]
    rfl
  rw [T.tokens, List.getLast?_range'] at last
  split at last
  · cases last
  · simp only [Option.some.injEq] at last
    omega

theorem lastIssued_of_token (T : Tracks env h b turns) (hf : f ∈ h.issued)
    (ht : f.token = b.latest) : h.lastIssued = some f := by
  have issued : h.issued ≠ [] := List.ne_nil_of_mem hf
  have last : h.lastIssued = some (h.issued.getLast issued) := List.getLast?_eq_some_getLast issued
  rw [last, Option.some.injEq]
  exact List.inj_on_of_nodup_map T.tokens_nodup (List.getLast_mem issued) hf
    ((T.token_lastIssued last).trans ht.symm)

theorem issued_of_arrived (T : Tracks env h b turns) (hf : f ∈ h.arrived) : f ∈ h.issued :=
  T.fetches.subset (List.mem_append_right _ hf)

theorem agenda_nodup (T : Tracks env h b turns) :
    ((turns.filterMap Turn.fetch?).map Fetch.token).Nodup := by
  obtain ⟨fetches, perm, sublist⟩ := T.known
  exact (perm.map _).nodup_iff.1 ((sublist.map _).nodup T.tokens_nodup)

/-- Timely arrivals come in the order of tokens. -/
theorem timely_lt (T : Tracks env h b turns) (latest : h.lastIssued = some f)
    (fresh : f ∉ h.arrived) : ∀ a ∈ h.timely, a.1.token < f.token := by
  intro a ha
  have arrived := History.mem_arrived_of_mem_timely ha
  have issued := T.issued_of_arrived arrived
  refine Nat.lt_of_le_of_ne (T.token_lastIssued latest ▸ T.token_le issued) ?_
  intro same
  have last := T.lastIssued_of_token issued (same.trans (T.token_lastIssued latest))
  rw [latest, Option.some.injEq] at last
  exact fresh (last ▸ arrived)

/-! ### Moves -/

theorem congr {turns' : List Turn} (T : Tracks env h b turns) (perm : turns'.Perm turns) :
    Tracks env h b turns' where
  tokens := T.tokens
  query := T.query
  fetches := ((perm.filterMap _).append_right _).trans T.fetches
  inFlight := T.inFlight.trans (perm.filterMap _).symm
  known := (perm.filterMap _).subperm.trans T.known
  returns f o hr := T.returns f o (perm.subset hr)
  arrivals := T.arrivals
  shown := T.shown
  settled := T.settled

theorem issue (T : Tracks env h b turns) (q : ListQuery) :
    Tracks env (h ++ [.issued ⟨b.latest + 1, q⟩]) (b.fetchFor q)
      (.fetchOpens ⟨b.latest + 1, q⟩ :: turns) where
  tokens := by
    simp only [History.issued_append, History.issued_issued, List.map_append, T.tokens,
      fetchFor, Board.issue, List.range'_1_concat]
    simp [Nat.add_comm]
  query f hf := by
    simp only [History.lastIssued_issued, Option.some.injEq] at hf
    subst hf
    rfl
  fetches := by
    simpa [Turn.awaited?] using
      (T.fetches.cons _).trans (List.perm_append_singleton _ _).symm
  inFlight := by
    simpa [Turn.fetch?, fetchFor, Board.issue] using
      (List.perm_append_singleton _ _).trans (T.inFlight.cons _)
  known := by
    simpa [Turn.fetch?] using ((List.subperm_cons _).2 T.known).trans
      (List.perm_append_singleton _ _).symm.subperm
  returns f o hr := (T.returns f o (by simpa using hr)).mono _
  arrivals f o ha := (T.arrivals f o (by simpa using ha)).mono _
  shown := T.shown.begun fun arrived => by
    exact absurd (T.token_le (T.issued_of_arrived arrived)) (Nat.not_succ_le_self _)
  settled g page hg ha := by
    simp only [History.lastIssued_issued, Option.some.injEq] at hg
    subst hg
    have arrived := History.mem_arrived.2 ⟨_, (by simpa using ha : FetchEvent.arrived _ _ ∈ h)⟩
    exact absurd (T.token_le (T.issued_of_arrived arrived)) (Nat.not_succ_le_self _)

theorem ask {source : σ} (T : Tracks env h b (.fetchOpens f :: turns)) :
    Tracks env (h ++ [.asked f (env.provider.list source f.query).1]) b
      (.fetchReturns f (env.provider.list source f.query).1.outcome :: turns) where
  tokens := by simpa using T.tokens
  query g hg := T.query g (by simpa using hg)
  fetches := by simpa [Turn.awaited?] using T.fetches
  inFlight := T.inFlight
  known := by simpa [Turn.fetch?] using T.known
  returns g o hr := by
    rcases List.mem_cons.1 hr with e | hr
    · cases e
      exact ⟨source, by simp, rfl⟩
    · exact (T.returns g o (.tail _ hr)).mono _
  arrivals g o ha := (T.arrivals g o (by simpa using ha)).mono _
  shown := T.shown.asked _
  settled g page hg ha := T.settled g page (by simpa using hg) (by simpa using ha)

theorem fresh (T : Tracks env h b (.fetchReturns f o :: turns)) :
    f ∈ h.issued ∧ f ∉ h.arrived := by
  have nodup : h.issued.Nodup := .of_map _ T.tokens_nodup
  have member : f ∈ (.fetchReturns f o :: turns).filterMap Turn.awaited? := by simp [Turn.awaited?]
  refine ⟨T.fetches.subset (List.mem_append_left _ member), ?_⟩
  exact List.disjoint_left.1 (List.nodup_append'.1 (T.fetches.nodup_iff.2 nodup)).2.2 member

/-- The outcome of a fetch that is not the last one issued leaves the board as it is. -/
theorem complete_of_superseded (T : Tracks env h b (.fetchReturns f o :: turns))
    (old : h.lastIssued ≠ some f) : b.complete f o = b :=
  complete_of_stale (fun ht => old (T.lastIssued_of_token T.fresh.1 ht)) o

theorem arrive (T : Tracks env h b (.fetchReturns f o :: turns)) :
    Tracks env (h ++ [.arrived f o]) (b.complete f o) (.fetchRetires f :: turns) where
  tokens := by simpa using T.tokens
  query g hg := by simpa using T.query g (by simpa using hg)
  fetches := by
    have arrived := (List.perm_append_singleton f _).trans T.fetches
    change (turns.filterMap Turn.awaited? ++ _).Perm _
    simpa using arrived
  inFlight := by simpa [Turn.fetch?] using T.inFlight
  known := by simpa [Turn.fetch?] using T.known
  returns g p hr := by
    have member : Turn.fetchReturns g p ∈ turns := by simpa using hr
    exact (T.returns g p (.tail _ member)).mono _
  arrivals g p ha := by
    rcases List.mem_append.1 ha with ha | ha
    · exact (T.arrivals g p ha).mono _
    · simp only [List.mem_singleton, FetchEvent.arrived.injEq] at ha
      obtain ⟨rfl, rfl⟩ := ha
      exact (T.returns g p (.head _)).mono _
  shown := by
    by_cases latest : h.lastIssued = some f
    · have token := T.token_lastIssued latest
      cases o with
      | ok page =>
        simpa [complete, token] using
          History.Shows.ofPage latest (T.timely_lt latest T.fresh.2) page
      | error e => simpa [complete, token] using T.shown.failed latest e
    · rw [T.complete_of_superseded latest]
      exact T.shown.superseded latest o
  settled g page hg ha := by
    rw [History.lastIssued_arrived] at hg
    rcases List.mem_append.1 ha with ha | ha
    · have other : f ≠ g := fun e => T.fresh.2 (History.mem_arrived.2 ⟨_, e ▸ ha⟩)
      rw [T.complete_of_superseded (by simpa [hg] using other.symm)]
      exact T.settled g page hg ha
    · simp only [List.mem_singleton, FetchEvent.arrived.injEq] at ha
      obtain ⟨rfl, rfl⟩ := ha
      simp [complete, T.token_lastIssued hg]

theorem retire (T : Tracks env h b (.fetchRetires f :: turns)) :
    Tracks env h (b.retire f) turns where
  tokens := T.tokens
  query := T.query
  fetches := T.fetches
  inFlight := by
    obtain ⟨others, nodup⟩ := List.nodup_cons.1 T.agenda_nodup
    have kept : (turns.filterMap Turn.fetch?).filter (·.token ≠ f.token) =
        turns.filterMap Turn.fetch? := by
      refine List.filter_eq_self.2 fun g hg => decide_eq_true fun same => ?_
      exact others (List.mem_map.2 ⟨g, hg, same⟩)
    rw [← kept]
    simpa [Turn.fetch?, Board.retire] using T.inFlight.filter (·.token ≠ f.token)
  known := (List.subperm_cons_self).trans T.known
  returns g p hr := T.returns g p (.tail _ hr)
  arrivals := T.arrivals
  shown := T.shown
  settled := T.settled

theorem turns_of_not_fetching (T : Tracks env h b turns) (idle : b.fetching = false) :
    turns.filterMap Turn.fetch? = [] := by
  have none : b.inFlight = [] := by simpa [fetching] using idle
  exact (none ▸ T.inFlight.symm).eq_nil

/-- When no fetch is under way, every outcome has arrived. -/
theorem arrived_of_not_fetching (T : Tracks env h b turns) (idle : b.fetching = false)
    (hf : f ∈ h.issued) : f ∈ h.arrived := by
  have none : turns.filterMap Turn.awaited? = [] := by
    have gone := T.turns_of_not_fetching idle
    simp only [List.filterMap_eq_nil_iff] at gone ⊢
    intro turn member
    have quiet := gone turn member
    cases turn with
    | fetchOpens g => cases quiet
    | fetchReturns g o => cases quiet
    | _ => rfl
  have fetches := T.fetches
  rw [none, List.nil_append] at fetches
  exact fetches.symm.subset hf

end Tracks

end Board

namespace Scene

variable {σ δ : Type} {env : Backend σ δ} {h k : History} {s t : Scene σ δ}

/-- What a step does to fetches keeps track of them. -/
theorem FetchEffect.tracks (effect : FetchEffect env s t k)
    (T : s.board.Tracks env h (s.turnsOf .fetch)) :
    t.board.Tracks env (h ++ k) (t.turnsOf .fetch) := by
  cases effect with
  | none board turns =>
    rw [board, List.append_nil]
    exact T.congr turns
  | issue q board turns =>
    rw [board]
    exact (T.issue q).congr turns
  | ask f source rest before board after =>
    rw [board]
    exact (T.congr before.symm).ask.congr after
  | answer f source rest before board after =>
    rw [board, List.append_cons]
    exact (T.congr before.symm).ask.arrive.congr after
  | arrive f o rest before board after =>
    rw [board]
    exact (T.congr before.symm).arrive.congr after
  | retire f before board =>
    rw [board, List.append_nil]
    exact (T.congr before.symm).retire

/-- An outcome that arrives for a fetch that is not the last one issued changes nothing. -/
theorem FetchEffect.board_of_superseded (effect : FetchEffect env s t k)
    (T : s.board.Tracks env h (s.turnsOf .fetch)) {f : Fetch} {o : Except Failure IncidentsPage}
    (arrived : .arrived f o ∈ k) (old : h.lastIssued ≠ some f) : t.board = s.board := by
  cases effect with
  | answer g source rest before board after =>
    simp only [List.mem_cons, reduceCtorEq, FetchEvent.arrived.injEq, false_or,
      List.not_mem_nil, or_false] at arrived
    obtain ⟨rfl, -⟩ := arrived
    rw [board]
    exact (T.congr before.symm).ask.complete_of_superseded (by simpa using old)
  | arrive g p rest before board after =>
    simp only [List.mem_singleton, FetchEvent.arrived.injEq] at arrived
    obtain ⟨rfl, -⟩ := arrived
    rw [board]
    exact (T.congr before.symm).complete_of_superseded old
  | _ => simp at arrived

variable {source : σ} {people : δ} {q : ListQuery} {quietTime : Int} {resetPage : Bool}

/-- Along every run the board keeps track of its fetches. -/
theorem Reaches.tracks (run : Reaches env (Scene.start source people q quietTime resetPage) h s) :
    s.board.Tracks env h (s.turnsOf .fetch) := by
  induction run with
  | start =>
    exact ⟨rfl, by simp [History.lastIssued, History.issued], .refl _, .refl _, .refl _,
      by simp [turnsOf, Scene.start], by simp, History.Shows.blank_nil, by simp⟩
  | step _ step ih => exact step.fetchEffect.tracks ih

/-- However long calls take and in whatever order outcomes arrive: the list shows the page of the
newest fetch that succeeded while it was the last one issued, with the failure of the last arrival
of that kind, and is loading while the last fetch issued is out; any other arrival changes
nothing. -/
theorem Reaches.shows_newest_timely
    (run : Reaches env (Scene.start source people q quietTime resetPage) h s) :
    h.Shows s.board.list ∧
      ∀ k t f o, Step env s k t → FetchEvent.arrived f o ∈ k → h.lastIssued ≠ some f →
        t.board = s.board :=
  ⟨run.tracks.shown, fun _ _ _ _ step arrived old =>
    step.fetchEffect.board_of_superseded run.tracks arrived old⟩

/-- Two pages are asked for; the fetch of the first one fails after the second one was shown. -/
theorem shows_newest_timely_of_late_failure :
    let late : Failure := .foreign (.scripted .connection [.text "late"])
    let env : Backend Script Roster := ⟨Script.provider, Roster.directory⟩
    let script : Script := ⟨[], [⟨50, some (.error late)⟩, .default], [], [], []⟩
    let first : ListQuery := .first "t" 15 (by decide)
    let fetch : Fetch := ⟨1, { first with page := 1 }⟩
    ∃ h s k t, Reaches env (Scene.start script ⟨[]⟩ first 300 true) h s ∧ h.Shows s.board.list ∧
      s.board.list.query = some { first with page := 2 } ∧ h.lastIssued ≠ some fetch ∧
      Step env s k t ∧ .arrived fetch (.error late) ∈ k ∧ t.board = s.board := by
  intro late env script first fetch
  have act₁ : Reaches env (Scene.start script ⟨[]⟩ first 300 true) _ _ :=
    .step .start (.act (.setPage (.int 1)) rfl)
  have act₂ := act₁.step (.act (.setPage (.int 2)) rfl)
  have open₁ := act₂.step (.turn (@Takes.next _ _ _ none _ _ rfl))
  have open₂ := open₁.step (.turn (@Takes.next _ _ _ none _ _ rfl))
  have retire₂ := open₂.step (.turn (@Takes.next _ _ _ none _ _ rfl))
  obtain ⟨shown, unchanged⟩ := retire₂.shows_newest_timely
  exact ⟨_, _, _, _, retire₂, shown, rfl, by decide,
    .turn (@Takes.next _ _ _ none _ _ rfl), .head _,
    unchanged _ _ fetch _ (.turn (@Takes.next _ _ _ none _ _ rfl)) (.head _) (by decide)⟩

end Scene

end IncidentBoard
