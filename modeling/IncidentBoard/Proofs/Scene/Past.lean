import IncidentBoard.Proofs.Scene.Tracking

/-!
# Boards with a past

What a board that is used again has behind it is not known: fetches may have been given up before
their outcomes arrived, and the list may show any of them. For what comes later only the number of
the tokens counts that were given. So a past is made up in which as many fetches were issued and
answered, and the board is tracked from there; the list alone is left out until the fetch issued
last arrives.

## Main definitions

* `Board.exists_past` — the past that is made up.
* `ListState.Reports` — a list shows how the fetch issued last went.
* `Board.Since` — a board and the turns of its fetches, after a past and a history.
* `Scene.FetchEffect.since` — whatever happens to the fetches keeps it so.
* `Board.Since.current` — what holds of the fetch issued last when none is under way.
-/

namespace IncidentBoard

/-- The fetch that an event is about. -/
def FetchEvent.fetch : FetchEvent → Fetch
  | .issued f | .asked f _ | .arrived f _ => f

theorem History.lastIssued_append {past h : History} {f : Fetch} (latest : h.lastIssued = some f) :
    lastIssued (past ++ h) = some f := by
  have last : h.issued.getLast? = some f := latest
  simp [lastIssued, List.getLast?_append, last]

/-- A list shows how a fetch of a query went: its page, or the text of its failure. -/
def ListState.Reports (l : ListState) (q : ListQuery) : Except Failure IncidentsPage → Prop
  | .ok page => l = .ofPage q page
  | .error e => l.loading = false ∧ l.error = some e.message

namespace Board

variable {σ δ : Type} {env : Backend σ δ} {past h : History} {b : Board} {turns : List Turn}
  {f : Fetch} {o : Except Failure IncidentsPage}

/-- The board with another list. -/
def relist (b : Board) (l : ListState) : Board := { b with list := l }

/-- What a board shows has no influence on what it does with an outcome. -/
theorem complete_relist (b : Board) (l : ListState) (f : Fetch)
    (o : Except Failure IncidentsPage) :
    ∃ l', (b.complete f o).relist l' = (b.relist l).complete f o := by
  refine ⟨((b.relist l).complete f o).list, ?_⟩
  unfold complete relist
  dsimp only
  split
  · rfl
  · cases o <;> rfl

/-! ## A past that is made up -/

/-- A board on which nothing is under way, but for its list, could be reached by fetches that were
all answered. -/
theorem exists_past (env : Backend σ δ) (source : σ) (q : ListQuery) (reset : Bool) (n : Nat) :
    ∃ past l, Tracks env past ⟨q, reset, l, n, []⟩ [] ∧
      ∀ e ∈ past, e.fetch ∈ History.issued past := by
  induction n with
  | zero =>
    exact ⟨[], .blank, ⟨rfl, by simp [History.lastIssued, History.issued], .refl _, .refl _,
      .refl _, by simp, by simp, History.Shows.blank_nil, by simp⟩, by simp⟩
  | succ n ih =>
    obtain ⟨past, l, tracks, closed⟩ := ih
    let f : Fetch := ⟨n + 1, q⟩
    let reply := (env.provider.list source q).1
    have answered := (@Tracks.ask _ _ _ _ _ _ _ source (tracks.issue q)).arrive.retire
    have board : ∃ l', ((fetchFor ⟨q, reset, l, n, []⟩ q).complete f reply.outcome).retire f =
        ⟨q, reset, l', n + 1, []⟩ := by
      refine ⟨((fetchFor ⟨q, reset, l, n, []⟩ q).complete f reply.outcome).list, ?_⟩
      cases reply.outcome <;> simp [fetchFor, issue, complete, retire, f]
    obtain ⟨l', board⟩ := board
    refine ⟨_, l', board ▸ answered, ?_⟩
    intro e member
    simp only [List.mem_append, List.mem_singleton] at member
    simp only [History.issued_append, History.issued_issued, History.issued_asked,
      History.issued_arrived, List.append_nil, List.mem_append, List.mem_singleton]
    rcases member with ((old | rfl) | rfl) | rfl
    · exact .inl (closed e old)
    · exact .inr rfl
    · exact .inr rfl
    · exact .inr rfl

/-! ## After a past -/

/-- A board and the turns of its fetches are those that a history leads to after a past. What the
list shows is known once the fetch issued last has arrived. -/
structure Since (env : Backend σ δ) (past h : History) (b : Board) (turns : List Turn) : Prop where
  closed : ∀ e ∈ past, e.fetch ∈ History.issued past
  tracks : ∃ l, Tracks env (past ++ h) (b.relist l) turns
  settled : ∀ f o, h.lastIssued = some f → .arrived f o ∈ h → b.list.Reports f.query o

namespace Since

/-- Any board on which nothing is under way has a past. -/
theorem start (env : Backend σ δ) (source : σ) (none : b.inFlight = []) :
    ∃ past, Since env past [] b [] := by
  obtain ⟨past, l, tracks, closed⟩ := exists_past env source b.query b.resetPage b.latest
  refine ⟨past, closed, ⟨l, ?_⟩, by simp⟩
  rw [List.append_nil, relist, none]
  exact tracks

/-- The tokens given since then are those of the fetches issued. -/
theorem latest (S : Since env past h b turns) :
    b.latest = (History.issued past).length + h.issued.length := by
  obtain ⟨l, tracks⟩ := S.tracks
  have tokens := congrArg List.length tracks.tokens
  rw [List.length_map, List.length_range', History.issued_append, List.length_append] at tokens
  exact tokens.symm

/-- The past knows nothing of a fetch that was issued since. -/
theorem not_mem_past (S : Since env past h b turns) {e : FetchEvent} (issued : e.fetch ∈ h.issued) :
    e ∉ past := by
  intro old
  obtain ⟨l, tracks⟩ := S.tracks
  have nodup : (History.issued (past ++ h)).Nodup := .of_map _ tracks.tokens_nodup
  rw [History.issued_append] at nodup
  exact (List.nodup_append'.1 nodup).2.2 (S.closed e old) issued

/-- When no fetch is under way, the last one issued is for the query in force, its outcome is the
provider's, and the list shows it. -/
theorem current (S : Since env past h b turns) (idle : b.fetching = false)
    (latest : h.lastIssued = some f) :
    f.query = b.query ∧ ∃ o, .arrived f o ∈ h ∧ h.Answers env f o ∧ b.list.Reports b.query o := by
  obtain ⟨l, tracks⟩ := S.tracks
  have issued : f ∈ h.issued := List.mem_of_getLast? latest
  have since {e : FetchEvent} (about : e.fetch = f) (member : e ∈ past ++ h) : e ∈ h :=
    (List.mem_append.1 member).resolve_left (S.not_mem_past (about ▸ issued))
  have query : f.query = b.query := tracks.query f (History.lastIssued_append latest)
  have arrived : f ∈ History.arrived (past ++ h) := by
    refine tracks.arrived_of_not_fetching idle ?_
    rw [History.issued_append]
    exact List.mem_append_right _ issued
  obtain ⟨o, member⟩ := History.mem_arrived.1 arrived
  obtain ⟨source, asked, outcome⟩ := tracks.arrivals f o member
  refine ⟨query, o, since rfl member, ⟨source, since rfl asked, outcome⟩, ?_⟩
  rw [← query]
  exact S.settled f o latest (since rfl member)

/-- The list of a board that takes an outcome. -/
theorem settled_arrive (S : Since env past h b turns) {l : ListState} {rest : List Turn}
    (tracks : Tracks env (past ++ h) (b.relist l) (.fetchReturns f o :: rest)) :
    ∀ g p, h.lastIssued = some g → .arrived g p ∈ h ++ [.arrived f o] →
      (b.complete f o).list.Reports g.query p := by
  intro g p latest member
  have last : History.lastIssued (past ++ h) = some g := History.lastIssued_append latest
  have token : g.token = b.latest := tracks.token_lastIssued last
  rcases List.mem_append.1 member with before | now
  · -- the outcome of the last fetch came before, and this one is of another fetch
    have stale : f.token ≠ b.latest := by
      intro same
      have this : (History.lastIssued (past ++ h)) = some f :=
        tracks.lastIssued_of_token tracks.fresh.1 same
      rw [last, Option.some.injEq] at this
      subst this
      exact tracks.fresh.2 (History.mem_arrived.2 ⟨_, List.mem_append_right past before⟩)
    rw [complete_of_stale stale]
    exact S.settled g p latest before
  · simp only [List.mem_singleton, FetchEvent.arrived.injEq] at now
    obtain ⟨rfl, rfl⟩ := now
    cases p <;> simp [complete, token, ListState.Reports, ListState.failed]

end Since

end Board

namespace Scene

variable {σ δ : Type} {env : Backend σ δ} {past h k : History} {s t : Scene σ δ}

/-- What a step does to fetches does not depend on what the list shows. -/
theorem FetchEffect.relist (effect : FetchEffect env s t k) (l : ListState) :
    ∃ l', FetchEffect env { s with board := s.board.relist l }
      { t with board := t.board.relist l' } k := by
  cases effect with
  | none board turns => exact ⟨l, .none (congrArg (·.relist l) board) turns⟩
  | issue q board turns => exact ⟨l.begun, .issue q (congrArg (·.relist l.begun) board) turns⟩
  | ask f source rest before board after =>
    exact ⟨l, .ask f source rest before (congrArg (·.relist l) board) after⟩
  | answer f source rest before board after =>
    obtain ⟨l', same⟩ := s.board.complete_relist l f (env.provider.list source f.query).1.outcome
    exact ⟨l', .answer f source rest before ((congrArg (·.relist l') board).trans same) after⟩
  | arrive f o rest before board after =>
    obtain ⟨l', same⟩ := s.board.complete_relist l f o
    exact ⟨l', .arrive f o rest before ((congrArg (·.relist l') board).trans same) after⟩
  | retire f before board => exact ⟨l, .retire f before (congrArg (·.relist l) board)⟩

theorem FetchEffect.settled (effect : FetchEffect env s t k)
    (S : s.board.Since env past h (s.turnsOf .fetch)) :
    ∀ f o, History.lastIssued (h ++ k) = some f → .arrived f o ∈ h ++ k →
      t.board.list.Reports f.query o := by
  obtain ⟨l, tracks⟩ := S.tracks
  intro f o latest member
  cases effect with
  | none board turns =>
    rw [board]
    exact S.settled f o (by simpa using latest) (by simpa using member)
  | issue q board turns =>
    simp only [History.lastIssued_issued, Option.some.injEq] at latest
    subst latest
    -- a fetch that was just issued has not arrived
    have arrived : .arrived ⟨s.board.latest + 1, q⟩ o ∈ h := by simpa using member
    have issued := tracks.issued_of_arrived
      (History.mem_arrived.2 ⟨_, List.mem_append_right past arrived⟩)
    exact absurd (tracks.token_le issued) (Nat.not_succ_le_self _)
  | ask g source rest before board after =>
    rw [board]
    exact S.settled f o (by simpa using latest) (by simpa using member)
  | answer g source rest before board after =>
    have asked := @Board.Tracks.ask _ _ _ _ _ _ _ source (tracks.congr before.symm)
    rw [List.append_assoc] at asked
    rw [List.append_cons] at latest member
    rw [board]
    refine Board.Since.settled_arrive ⟨S.closed, ⟨l, asked⟩, ?_⟩ asked f o ?_ member
    · exact fun f o latest member =>
        S.settled f o (by simpa using latest) (by simpa using member)
    · simpa only [History.lastIssued_arrived] using latest
  | arrive g p rest before board after =>
    rw [board]
    exact S.settled_arrive (tracks.congr before.symm) f o (by simpa using latest) member
  | retire g before board =>
    rw [board]
    exact S.settled f o (by simpa using latest) (by simpa using member)

/-- Whatever happens to fetches, the board goes on from its past. -/
theorem FetchEffect.since (effect : FetchEffect env s t k)
    (S : s.board.Since env past h (s.turnsOf .fetch)) :
    t.board.Since env past (h ++ k) (t.turnsOf .fetch) := by
  obtain ⟨l, tracks⟩ := S.tracks
  obtain ⟨l', moved⟩ := effect.relist l
  refine ⟨S.closed, ⟨l', ?_⟩, effect.settled S⟩
  rw [← List.append_assoc]
  exact moved.tracks tracks

end Scene

end IncidentBoard
