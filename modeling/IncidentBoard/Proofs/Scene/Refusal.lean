import IncidentBoard.Proofs.Agenda.Filtered
import IncidentBoard.Proofs.Query.Refusal
import IncidentBoard.Proofs.Scene.Calls

/-!
# Refusals leave no trace

An action that is refused leaves everything as it was. A search term that is refused when it counts
takes the place of the one before it, and that is all: whatever happens before and after, it happens
in the same way where the term was never typed and the one before it was taken back.

## Main definitions

* `Scene.without` — a scene in which the call of a search term was never made.
* `Scene.Move.without`, `Scene.Plays.without` — what happens, happens without it too.
* `Scene.refusals_leave_no_trace` — what is refused, and that nothing comes of it.
-/

namespace IncidentBoard

/-- The tickets after one that was never given out come one sooner. -/
def Debouncer.sooner (n ticket : Nat) : Nat := if n < ticket then ticket - 1 else ticket

/-- The debouncer without the call of a ticket. -/
def Debouncer.without {α : Type} (n : Nat) (d : Debouncer α) : Debouncer α :=
  { d with
    waiting := d.waiting.bind fun (ticket, v) =>
      if ticket = n then none else some (sooner n ticket, v)
    tickets := d.tickets - 1 }

/-- A turn where the call of a ticket was never made. -/
def Turn.without? (n : Nat) : Turn → Option Turn
  | .searchOpens ticket =>
    if ticket = n then none else some (.searchOpens (Debouncer.sooner n ticket))
  | .searchFires ticket =>
    if ticket = n then none else some (.searchFires (Debouncer.sooner n ticket))
  | turn => some turn

namespace Debouncer

variable {α : Type} {n ticket : Nat} {d : Debouncer α}

theorem sooner_inj {t u : Nat} (ht : t ≠ n) (hu : u ≠ n) : sooner n t = sooner n u ↔ t = u := by
  unfold sooner
  split <;> split <;> omega

theorem waiting_without {v : α} {t' : Nat} : (d.without n).waiting = some (t', v) ↔
    ∃ t, d.waiting = some (t, v) ∧ t ≠ n ∧ sooner n t = t' := by
  cases waiting : d.waiting with
  | none => simp [without, waiting]
  | some c =>
    obtain ⟨t, w⟩ := c
    by_cases same : t = n <;> simp [without, waiting, same]
    aesop

theorem fire_without (other : ticket ≠ n) :
    (d.without n).fire (sooner n ticket) = ((d.fire ticket).1.without n, (d.fire ticket).2) := by
  rcases d.fire_cases ticket with ⟨v, waiting, fire⟩ | ⟨others, fire⟩ <;> rw [fire]
  · have waits : (d.without n).waiting = some (sooner n ticket, v) :=
      waiting_without.2 ⟨ticket, waiting, other, rfl⟩
    simp [Debouncer.fire, waits]
    rfl
  · rcases (d.without n).fire_cases (sooner n ticket) with ⟨v, waits, -⟩ | ⟨-, fire'⟩
    · obtain ⟨t, waiting, unlike, same⟩ := waiting_without.1 waits
      exact absurd ((sooner_inj unlike other).1 same ▸ waiting) (others v)
    · exact fire'

/-- The next ticket. -/
theorem sooner_next {tickets : Nat} (positive : 0 < n) (given : n ≤ tickets) :
    tickets + 1 ≠ n ∧ sooner n (tickets + 1) = tickets - 1 + 1 := by
  unfold sooner
  split <;> omega

theorem call_without (positive : 0 < n) (given : n ≤ d.tickets) (v : α) :
    (d.call v).without n = (d.without n).call v := by
  obtain ⟨unlike, one⟩ := sooner_next positive given
  have count : d.tickets + 1 - 1 = d.tickets - 1 + 1 := by omega
  simp only [without, call, Option.bind_some, unlike, if_false, one, count]

end Debouncer

namespace Scene

variable {σ δ : Type} {n ticket : Nat} {s : Scene σ δ}

/-- A scene in which the call of a ticket was never made. -/
def without (n : Nat) (s : Scene σ δ) : Scene σ δ :=
  { s with agenda := s.agenda.filterMap (Turn.without? n), search := s.search.without n }

theorem post_without {turn new : Turn} (kept : turn.without? n = some new) :
    (s.post turn).without n = (s.without n).post new := by
  simp only [without, post, Agenda.filterMap_post kept]

theorem sleep_without {turn new : Turn} (ms : Nat)
    (sorted : s.agenda.sleeping.Pairwise fun x y => x.1 ≤ y.1) (kept : turn.without? n = some new) :
    (s.sleep ms turn).without n = (s.without n).sleep ms new := by
  simp only [without, sleep, Agenda.filterMap_sleep ms sorted kept]

theorem attempt_without (s : Scene σ δ) (n : Nat) (a : Action) :
    (s.attempt a).without n = (s.without n).attempt a := by
  have board : (s.without n).board = s.board := rfl
  unfold attempt dispatch
  rw [board]
  cases s.board.dispatch a with
  | error f => rfl
  | ok r =>
    obtain ⟨b, _ | f⟩ := r
    · rfl
    · exact post_without rfl

theorem type_without (positive : 0 < n) (given : n ≤ s.search.tickets) (v : Json) :
    (s.type v).without n = (s.without n).type v := by
  have kept : (Turn.searchOpens (s.search.call v).tickets).without? n =
      some (.searchOpens ((s.without n).search.call v).tickets) := by
    obtain ⟨unlike, one⟩ := Debouncer.sooner_next positive given
    change (if s.search.tickets + 1 = n then none else _) = _
    rw [if_neg unlike]
    exact congrArg (fun t => some (Turn.searchOpens t)) one
  have called : ({ s with search := s.search.call v } : Scene σ δ).without n =
      { s.without n with search := (s.without n).search.call v } := by
    simp only [without, Debouncer.call_without positive given]
  unfold type
  dsimp only
  rw [post_without kept, called]

/-! ## Turns -/

theorem taken_without {turn new : Turn} {rest : List Turn} (due : s.agenda.ready = turn :: rest)
    (kept : turn.without? n = some new) :
    (s.without n).agenda.ready = new :: rest.filterMap (Turn.without? n) ∧
      s.taken.without n = (s.without n).taken := by
  obtain ⟨ready, behind⟩ := Agenda.filterMap_behind due kept
  exact ⟨ready, by simp only [without, taken, behind]⟩

theorem taken_without_of_none {turn : Turn} {rest : List Turn}
    (due : s.agenda.ready = turn :: rest) (left : turn.without? n = none) :
    s.taken.without n = s.without n := by
  simp only [without, taken, Agenda.filterMap_behind_of_none due left]

variable (sorted : s.agenda.sleeping.Pairwise fun x y => x.1 ≤ y.1)

include sorted in
theorem openSearch_without (other : ticket ≠ n) :
    (s.openSearch ticket).without n = (s.without n).openSearch (Debouncer.sooner n ticket) := by
  have kept : (Turn.searchFires ticket).without? n =
      some (.searchFires (Debouncer.sooner n ticket)) := if_neg other
  have delay : (s.without n).search.delay = s.search.delay := rfl
  unfold openSearch
  rw [delay]
  split
  · exact sleep_without _ sorted kept
  · exact post_without kept

theorem openSearch_without_self : (s.openSearch n).without n = s.without n := by
  have left : (Turn.searchFires n).without? n = none := if_pos rfl
  unfold openSearch
  split
  · simp only [without, sleep, Agenda.filterMap_sleep_of_none _ left]
  · simp only [without, post, Agenda.filterMap_post_of_none left]

theorem fireSearch_without (other : ticket ≠ n) :
    (s.fireSearch ticket).without n = (s.without n).fireSearch (Debouncer.sooner n ticket) ∧
      (s.without n).turnDeeds (.searchFires (Debouncer.sooner n ticket)) =
        s.turnDeeds (.searchFires ticket) := by
  have fired : (s.without n).search.fire (Debouncer.sooner n ticket) =
      ((s.search.fire ticket).1.without n, (s.search.fire ticket).2) :=
    Debouncer.fire_without other
  refine ⟨?_, by simp only [turnDeeds, fired]; rfl⟩
  unfold fireSearch
  rw [fired]
  obtain ⟨d, _ | v⟩ := s.search.fire ticket
  · rfl
  · exact attempt_without { s with search := d } n (.setSearch v)

include sorted in
theorem run_without (env : Backend σ δ) {turn : Turn} (fetch : turn.kind = .fetch) :
    turn.without? n = some turn ∧ (s.run env turn).without n = (s.without n).run env turn := by
  cases turn with
  | fetchOpens f =>
    refine ⟨rfl, ?_⟩
    change (s.openFetch env f).without n = (s.without n).openFetch env f
    have source : (s.without n).source = s.source := rfl
    unfold openFetch
    rw [source]
    dsimp only
    split
    · exact post_without rfl
    · exact sleep_without _ sorted rfl
  | fetchReturns f o => exact ⟨rfl, post_without rfl⟩
  | fetchRetires f => exact ⟨rfl, rfl⟩
  | _ => cases fetch

/-! ## Refused actions and terms -/

variable {a : Action} {f : Failure} {v : Json}

theorem dispatch_eq_error_iff (s : Scene σ δ) : s.dispatch a = .error f ↔ a.refusal? = some f := by
  rw [← Failure.of?_eq_some_iff, dispatch, Failure.of?_map, Board.dispatch, Failure.of?_map,
    Failure.of?_eq_some_iff, ListQuery.reduce_eq_error_iff]

/-- A term that is refused when it counts is no longer the one that waits, and that is all. -/
theorem fireSearch_of_refusal (refused : (Action.setSearch v).refusal? = some f)
    (waits : s.search.waiting = some (ticket, v)) :
    s.fireSearch ticket = { s with search := s.search.cancel } := by
  have fire : s.search.fire ticket = (s.search.cancel, some v) := by
    simp [Debouncer.fire, waits]
  rw [fireSearch, fire]
  dsimp only
  rw [(dispatch_eq_error_iff _).2 refused]

/-! ## Moves -/

variable {σ : Type} {s t : Scene (σ × List Request) δ} {env : Backend σ δ} {q : ListQuery}
  {resetPage : Bool} {quietTime : Int} {deeds more : Deeds}

/-- Tickets are given out once, and only the last one waits. -/
theorem Move.tickets (move : Move env.recorded s more t) (given : n ≤ s.search.tickets) :
    n ≤ t.search.tickets ∧
      ∀ w, t.search.waiting = some (n, w) → s.search.waiting = some (n, w) := by
  rcases move.step with rfl | ⟨k, step⟩
  · exact ⟨given, fun _ => id⟩
  · cases step.searchEffect with
    | none same =>
      rw [same]
      exact ⟨given, fun _ => id⟩
    | opens ticket turn before same =>
      rw [same]
      exact ⟨given, fun _ => id⟩
    | fires ticket turns fired =>
      rw [fired]
      rcases s.search.fire_cases ticket with ⟨v, -, fire⟩ | ⟨-, fire⟩ <;> rw [fire]
      · exact ⟨given, nofun⟩
      · exact ⟨given, fun _ => id⟩
    | call term called =>
      rw [called]
      refine ⟨Nat.le_succ_of_le given, fun w waits => ?_⟩
      obtain ⟨last, -⟩ : s.search.tickets + 1 = n ∧ term = w := by
        simpa [Debouncer.call] using waits
      omega

/-- A turn that is due is run, or is left out, where the call of a ticket was never made. -/
theorem turn_without {turn : Turn} {rest : List Turn} (env : Backend (σ × List Request) δ)
    (sorted : s.agenda.sleeping.Pairwise fun x y => x.1 ≤ y.1) (board : turn.OfBoard)
    (due : s.agenda.ready = turn :: rest) (other : turn ≠ .searchFires n) :
    Plays env (s.without n) (s.taken.turnDeeds turn) ((s.taken.run env turn).without n) := by
  cases turn with
  | searchOpens ticket =>
    change Plays env _ [] ((s.taken.openSearch ticket).without n)
    by_cases same : ticket = n
    · subst same
      rw [openSearch_without_self, taken_without_of_none due (if_pos rfl)]
      exact .start
    · obtain ⟨ready, taken⟩ := taken_without due (if_neg same)
      have opened := openSearch_without (s := s.taken) sorted same
      rw [opened, taken]
      exact .one (.alone (.turn ready))
  | searchFires ticket =>
    have unlike : ticket ≠ n := fun same => other (same ▸ rfl)
    change Plays env _ _ ((s.taken.fireSearch ticket).without n)
    obtain ⟨ready, taken⟩ := taken_without due (if_neg unlike)
    obtain ⟨fired, deeds⟩ := fireSearch_without (s := s.taken) unlike
    rw [fired, ← deeds, taken]
    exact .one (.alone (.turn ready))
  | _ =>
    have fetch := board.resolve_left (by simp [Turn.kind])
    obtain ⟨kept, run⟩ := run_without (s := s.taken) (n := n) sorted env fetch
    obtain ⟨ready, taken⟩ := taken_without due kept
    rw [run, taken]
    exact .one (.alone (.turn ready))

/-- The quiet time of a term that is refused is over, and nothing else happens. -/
theorem fires_without {rest : List Turn} (env : Backend (σ × List Request) δ)
    (due : s.agenda.ready = .searchFires n :: rest)
    (refused : ∀ w, s.search.waiting = some (n, w) → (Action.setSearch w).refusal?.isSome) :
    let t := s.taken.run env (.searchFires n)
    t.without n = s.without n ∧
      (s.taken.turnDeeds (.searchFires n) = [] ∨
        ∃ w, s.search.waiting = some (n, w) ∧ t.search.waiting = none ∧
          s.taken.turnDeeds (.searchFires n) = [(.searched w, s.agenda.now)]) := by
  have taken : s.taken.without n = s.without n := taken_without_of_none due (if_pos rfl)
  change (s.taken.fireSearch n).without n = _ ∧ _
  rcases s.search.fire_cases n with ⟨w, waits, fire⟩ | ⟨-, fire⟩
  · obtain ⟨f, failed⟩ := Option.isSome_iff_exists.1 (refused w waits)
    have fired : s.taken.fireSearch n = { s.taken with search := s.search.cancel } :=
      fireSearch_of_refusal failed waits
    have cancelled : s.search.cancel.without n = s.search.without n := by
      simp [Debouncer.without, Debouncer.cancel, waits]
    refine ⟨?_, .inr ⟨w, waits, ?_, by simp [turnDeeds, fire]; rfl⟩⟩
    · rw [fired, ← taken]
      simp only [Scene.without, cancelled, taken_search]
    · change (s.taken.fireSearch n).search.waiting = none
      rw [fired]
      rfl
  · have fired : s.taken.fireSearch n = s.taken := by
      simp [fireSearch, fire]
      rfl
    exact ⟨by rw [fired, taken], .inl (by simp [turnDeeds, fire])⟩

/-- A move is made without a term that is refused too, but for its quiet time that is over. -/
theorem Move.without (move : Move env.recorded s more t)
    (K : Keeps q resetPage quietTime deeds s) (positive : 0 < n) (given : n ≤ s.search.tickets)
    (refused : ∀ w, s.search.waiting = some (n, w) → (Action.setSearch w).refusal?.isSome) :
    Plays env.recorded (s.without n) more (t.without n) ∨
      t.without n = s.without n ∧ ∃ w, s.search.waiting = some (n, w) ∧ t.search.waiting = none ∧
        more = [(.searched w, s.agenda.now)] := by
  have sorted := K.scheduled.timed.sorted
  cases move with
  | act a =>
    rw [attempt_without]
    exact .inl (.one (.act _ a))
  | type term =>
    rw [type_without positive given]
    exact .inl (.one (.type _ term))
  | alone step =>
    cases step with
    | pass time idle =>
      have passed :
          ({ s with agenda := s.agenda.wake time } : Scene (σ × List Request) δ).without n =
            { s.without n with agenda := (s.without n).agenda.wake time } := by
        simp only [Scene.without, Agenda.filterMap_wake time sorted]
      rw [passed]
      exact .inl (.one (.alone (.pass time idle.filterMap)))
    | @turn turn rest due =>
      obtain ⟨queued, Q, -⟩ := K.calls
      by_cases last : turn = .searchFires n
      · subst last
        obtain ⟨same, silent | fired⟩ := fires_without env.recorded due refused
        · left
          rw [same, silent]
          exact .start
        · exact .inr ⟨same, fired⟩
      · exact .inl (turn_without env.recorded sorted (Q.take due).1 due last)

/-- The deeds of a run, and those of the run in which a term that was refused was never typed: the
same, but for the moment at which the term counted. -/
inductive Spares (v : Json) : Deeds → Deeds → Prop
  | same (deeds : Deeds) : Spares v deeds deeds
  | fewer (before after : Deeds) (time : Nat) :
      Spares v (before ++ (.searched v, time) :: after) (before ++ after)

/-- What comes after a term that is refused comes without it too. -/
theorem Plays.without (run : Plays env.recorded s more t)
    (K : Keeps q resetPage quietTime deeds s) (positive : 0 < n) (given : n ≤ s.search.tickets)
    (waits : ∀ w, s.search.waiting = some (n, w) → w = v)
    (refused : (Action.setSearch v).refusal?.isSome) :
    ∃ left, Spares v more left ∧ Plays env.recorded (s.without n) left (t.without n) := by
  suffices h : Keeps q resetPage quietTime (deeds ++ more) t ∧ n ≤ t.search.tickets ∧
      (∀ w, t.search.waiting = some (n, w) → w = v) ∧
      ∃ left, Plays env.recorded (s.without n) left (t.without n) ∧
        (left = more ∨ (∀ w, t.search.waiting ≠ some (n, w)) ∧
          ∃ before after time, more = before ++ (.searched v, time) :: after ∧
            left = before ++ after) by
    obtain ⟨-, -, -, left, plays, rfl | ⟨-, before, after, time, rfl, rfl⟩⟩ := h
    · exact ⟨_, .same _, plays⟩
    · exact ⟨_, .fewer before after time, plays⟩
  induction run with
  | start => exact ⟨by simpa using K, given, waits, [], .start, .inl rfl⟩
  | @step log more u t run move ih =>
    obtain ⟨K', given', waits', left, plays, log_left⟩ := ih
    obtain ⟨given'', back⟩ := move.tickets given'
    have same (w : Json) (h : t.search.waiting = some (n, w)) : w = v := waits' w (back w h)
    refine ⟨by rw [← List.append_assoc]; exact move.keeps K', given'', same, ?_⟩
    have moved := move.without K' positive given' fun w h => waits' w h ▸ refused
    rcases moved with moved | ⟨unmoved, w, waited, idle, rfl⟩
    · refine ⟨_, plays.trans moved, ?_⟩
      rcases log_left with rfl | ⟨gone, before, after, time, rfl, rfl⟩
      · exact .inl rfl
      · refine .inr ⟨fun w h => gone w (back w h), before, after ++ more, time, ?_, ?_⟩ <;> simp
    · obtain rfl := waits' w waited
      rcases log_left with rfl | ⟨gone, -⟩
      · refine ⟨left, unmoved ▸ plays, .inr ⟨fun w h => ?_, left, [], _, rfl, by simp⟩⟩
        rw [idle] at h
        cases h
      · exact absurd waited (gone w)

/-! ## A term that was never typed -/

/-- No turn has the next ticket. -/
theorem Keeps.without? (K : Keeps q resetPage quietTime deeds s) {turn : Turn}
    (member : turn ∈ s.agenda.turns) :
    turn.without? (s.search.tickets + 1) = some turn := by
  have planned : ∃ time, ∀ u ∈ turn.search?,
      Debouncer.OnTime deeds.searches.calls s.search.delay.toNat time u := by
    rcases List.mem_append.1 member with ready | asleep
    · exact ⟨_, K.scheduled.timed.ready turn ready⟩
    · obtain ⟨x, hx, rfl⟩ := List.mem_map.1 asleep
      exact ⟨_, K.scheduled.timed.sleeping x hx⟩
  obtain ⟨time, planned⟩ := planned
  have given {ticket : Nat} {c : Json × Nat}
      (called : deeds.searches.calls[ticket - 1]? = some c) :
      ticket ≠ s.search.tickets + 1 ∧ Debouncer.sooner (s.search.tickets + 1) ticket = ticket := by
    have bound := (List.getElem?_eq_some_iff.1 called).1
    rw [← K.scheduled.tickets] at bound
    exact ⟨by omega, if_neg (by omega)⟩
  cases turn with
  | searchOpens ticket =>
    obtain ⟨c, called, -⟩ := planned _ rfl
    obtain ⟨other, same⟩ := given called
    rw [Turn.without?, if_neg other, same]
  | searchFires ticket =>
    obtain ⟨c, called, -⟩ := planned _ rfl
    obtain ⟨other, same⟩ := given called
    rw [Turn.without?, if_neg other, same]
  | _ => rfl

/-- Without the call of a term the one before it is taken back. -/
theorem Keeps.type_without (K : Keeps q resetPage quietTime deeds s) (v : Json) :
    (s.type v).without (s.search.tickets + 1) = { s with search := s.search.cancel } := by
  have agenda : s.agenda.filterMap (Turn.without? (s.search.tickets + 1)) = s.agenda :=
    Agenda.filterMap_of_forall fun _ => K.without?
  have left : (Turn.searchOpens (s.search.tickets + 1)).without? (s.search.tickets + 1) = none :=
    if_pos rfl
  have posted : (s.type v).agenda.filterMap (Turn.without? (s.search.tickets + 1)) = s.agenda :=
    (Agenda.filterMap_post_of_none left).trans agenda
  have search : (s.search.call v).without (s.search.tickets + 1) = s.search.cancel := by
    simp [Debouncer.without, Debouncer.call, Debouncer.cancel]
  change ({ s with agenda := _, search := _ } : Scene (σ × List Request) δ) = _
  rw [posted]
  exact congrArg (fun d => { s with search := d }) search

variable {source : σ} {people : δ}

/-- What is refused is told by its value alone, whatever the query, and is named by its failure; the
rest of the record of a query is read again and never refused. What is refused leaves the scene as
it is. A search term that is refused when its quiet time is over is no longer the one that waits,
and nothing else changes; but for this, what comes after it was typed comes in the same way where it
was not, and the term before it was taken back. -/
theorem refusals_leave_no_trace
    (run : Plays env.recorded (Scene.start (source, []) people q quietTime resetPage) deeds s) :
    (∀ (p : ListQuery) (a : Action), p.update a = (p.written a).bind fun new =>
        Failure.ofRejection (ListQuery.read (.object (p.toFields.merge new)))) ∧
      (∀ (p : ListQuery) (reset : Bool) (a : Action) (f : Failure),
        p.reduce reset a = .error f ↔ a.refusal? = some f) ∧
      (∀ a : Action, a.refusal? = none ↔ a.Acceptable) ∧
      (∀ (a : Action) (f : Failure), a.refusal? = some f → a.Names f) ∧
      (∀ (a : Action) (f : Failure), s.dispatch a = .error f ↔ a.refusal? = some f) ∧
      (∀ a : Action, ¬a.Acceptable → s.attempt a = s) ∧
      ∀ v : Json, ¬(Action.setSearch v).Acceptable →
        (∀ ticket, s.search.waiting = some (ticket, v) →
          s.fireSearch ticket = { s with search := s.search.cancel }) ∧
        ∀ more t, Plays env.recorded (s.type v) more t → ∃ left t', Spares v more left ∧
          Plays env.recorded { s with search := s.search.cancel } left t' ∧
            t'.board = t.board ∧ t'.source = t.source ∧ t'.agenda.now = t.agenda.now := by
  have K := run.keeps
  have refused {a : Action} (h : ¬a.Acceptable) : ∃ f, a.refusal? = some f := by
    rw [← Action.refusal?_eq_none_iff] at h
    exact Option.ne_none_iff_exists'.1 h
  refine ⟨ListQuery.update_eq_read, fun p reset a f => ListQuery.reduce_eq_error_iff,
    fun a => Action.refusal?_eq_none_iff, fun a f => Action.names_of_refusal?,
    fun a f => s.dispatch_eq_error_iff, fun a h => ?_, fun v h => ?_⟩
  · obtain ⟨f, failed⟩ := refused h
    rw [attempt, s.dispatch_eq_error_iff.2 failed]
  · obtain ⟨f, failed⟩ := refused h
    refine ⟨fun ticket waits => fireSearch_of_refusal failed waits, fun more t after => ?_⟩
    have waits (w : Json) (now : (s.type v).search.waiting = some (s.search.tickets + 1, w)) :
        w = v := by
      have same : some (s.search.tickets + 1, v) = some (s.search.tickets + 1, w) := now
      cases same
      rfl
    obtain ⟨left, spares, plays⟩ := Plays.without after (K.type v) (Nat.succ_pos _) le_rfl waits
      (by rw [failed]; rfl)
    rw [K.type_without v] at plays
    exact ⟨left, _, spares, plays, rfl, rfl, rfl⟩

/-- A number is typed as a term while a text waits: it is refused when its quiet time is over, and
the text does not count any more. -/
theorem refusals_leave_no_trace_of_number :
    let env : Backend Script Roster := ⟨Script.provider, Roster.directory⟩
    let first : ListQuery := .first "t" 15 (by decide)
    let script : Script := ⟨[], [], [], [], []⟩
    let s := (Scene.start (script, ([] : List Request)) (⟨[]⟩ : Roster) first 300 true).type
      (.text "db")
    ¬(Action.setSearch (.int 5)).Acceptable ∧ s.attempt (.setPage (.int (-1))) = s ∧
      ∃ left t', Spares (.int 5) [(.searched (.int 5), 300)] left ∧
        Plays env.recorded { s with search := s.search.cancel } left t' ∧
          t'.board = s.board ∧ t'.source.2 = [] ∧ t'.agenda.now = 300 := by
  intro env first script s
  have typed : Plays env.recorded (Scene.start (script, []) ⟨[]⟩ first 300 true) _ s :=
    .one (.type _ (.text "db"))
  have number : ¬(Action.setSearch (.int 5)).Acceptable := by
    intro accepted
    obtain ⟨text, same⟩ := accepted rfl
    cases same
  have before : ¬(Action.setPage (.int (-1))).Acceptable := by
    rintro ⟨n, whole, positive⟩
    cases whole
    exact absurd positive (by decide)
  obtain ⟨-, -, -, -, -, attempted, terms⟩ := refusals_leave_no_trace typed
  have opened : Plays env.recorded (s.type (.int 5)) _ _ := .one (.alone (.turn rfl))
  have opened' := opened.step (.alone (.turn rfl))
  have passed := opened'.step (.alone (.pass 300 ⟨rfl, by decide⟩))
  have replaced := passed.step (.alone (.turn rfl))
  have counted := replaced.step (.alone (.turn rfl))
  obtain ⟨left, t', spares, plays, board, source, now⟩ := (terms (.int 5) number).2 _ _ counted
  exact ⟨number, attempted _ before, left, t', spares, plays, board, by rw [source]; rfl, now⟩

end Scene

end IncidentBoard
