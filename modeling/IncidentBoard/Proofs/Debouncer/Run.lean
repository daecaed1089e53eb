import IncidentBoard.Proofs.Debouncer.Schedule
import IncidentBoard.Proofs.Runs

/-!
# Runs of a debouncer

Calls and cancellations come at any point of time, also between the end of a quiet time and the
delivery, or from the delivery itself. Whatever their order, the deliveries are those of the
trailing edge: a call is delivered once, when its quiet time is over, unless another call or a
cancellation came first.

## Main definitions

* `Timeline.Step`, `Timeline.Goes` — what happens of itself: turns that are due, and time.
* `Timeline.Move`, `Timeline.Reaches` — the same with calls and cancellations from outside.
* `Timeline.Debounces` — what a debouncer has done; `Timeline.Reaches.debounces` — it has.
-/

namespace IncidentBoard.Timeline

open Debouncer

variable {α : Type}

/-! ## Runs -/

/-- What a turn does: a delivery, with the call that it makes. -/
def turnLog (s : Timeline α) : Turn → Log α
  | .opens _ => []
  | .fires ticket =>
    match (s.debouncer.fire ticket).2 with
    | none => []
    | some v =>
      match s.echo.again v with
      | none => [(.delivered v, s.agenda.now)]
      | some w => [(.delivered v, s.agenda.now), (.called w, s.agenda.now)]

/-- The first of the turns that are due was taken. -/
def taken (s : Timeline α) : Timeline α := { s with agenda := s.agenda.behind }

/-- What happens of itself, with what it adds to the log. -/
inductive Step : Timeline α → Log α → Timeline α → Prop
  /-- The first turn that is due is run. -/
  | turn {s : Timeline α} {turn : Turn} {rest : List Turn} (due : s.agenda.ready = turn :: rest) :
      Step s (s.taken.turnLog turn) (s.taken.run turn)
  /-- Nothing is due, and time passes, at most to the next deadline. -/
  | pass {s : Timeline α} (time : Nat) (idle : s.agenda.IdleUntil time) :
      Step s [] { s with agenda := s.agenda.wake time }

/-- What happens at all: of itself, or by a call or a cancellation at any point of time. -/
inductive Move : Timeline α → Log α → Timeline α → Prop
  | call (s : Timeline α) (v : α) : Move s [(.called v, s.agenda.now)] (s.call v)
  | cancel (s : Timeline α) : Move s [(.cancelled, s.agenda.now)] s.cancel
  | alone {s t : Timeline α} {more : Log α} (step : Step s more t) : Move s more t

/-- The timelines that a timeline comes to of itself. -/
abbrev Goes (s : Timeline α) : Log α → Timeline α → Prop := Runs Step s

/-- The timelines that calls and cancellations lead to, at any points of time. -/
abbrev Reaches (s₀ : Timeline α) : Log α → Timeline α → Prop := Runs Move s₀

variable {s t : Timeline α} {log more : Log α} {turn : Turn} {limit : Option Nat} {time : Nat}

/-! ## What a run keeps -/

/-- A timeline with the log that led to it. -/
structure Tracks (delay : Int) (log : Log α) (s : Timeline α) : Prop where
  delay : s.debouncer.delay = delay
  scheduled : Scheduled some s.debouncer s.agenda log
  received : s.received = log.deliveries

section Moves

variable {delay : Int}

theorem Tracks.call (T : Tracks delay log s) (v : α) :
    Tracks delay (log ++ [(.called v, s.agenda.now)]) (s.call v) where
  delay := T.delay
  scheduled := T.scheduled.call v _ rfl
  received := by simp [Timeline.call, T.received]

theorem Tracks.cancel (T : Tracks delay log s) :
    Tracks delay (log ++ [(.cancelled, s.agenda.now)]) s.cancel where
  delay := T.delay
  scheduled := T.scheduled.cancel
  received := by simp [Timeline.cancel, T.received]

theorem run_opens (s : Timeline α) (ticket : Nat) :
    s.run (.opens ticket) = { s with
      agenda := if 0 < s.debouncer.delay then
          s.agenda.sleep s.debouncer.delay.toNat (.fires ticket)
        else s.agenda.post (.fires ticket) } := by
  simp only [run]
  split <;> rfl

/-- The quiet time of a call is over: it is delivered if it still waits. -/
theorem run_fires_cases (s : Timeline α) (ticket : Nat) :
    (∃ v, s.debouncer.fire ticket = (s.debouncer.cancel, some v) ∧
      s.debouncer.waiting = some (ticket, v) ∧
      s.run (.fires ticket) = { s with debouncer := s.debouncer.cancel }.deliver v) ∨
    (s.debouncer.fire ticket = (s.debouncer, none) ∧ s.run (.fires ticket) = s) := by
  rcases s.debouncer.fire_cases ticket with ⟨v, waiting, fire⟩ | ⟨-, fire⟩
  · exact .inl ⟨v, fire, waiting, by simp [run, fire]⟩
  · exact .inr ⟨fire, by simp [run, fire]⟩

theorem Tracks.fires {rest : List Turn} {ticket : Nat} (T : Tracks delay log s)
    (due : s.agenda.ready = .fires ticket :: rest) :
    Tracks delay (log ++ s.taken.turnLog (.fires ticket)) (s.taken.run (.fires ticket)) := by
  have scheduled := T.scheduled.fires due rfl
  rcases s.taken.run_fires_cases ticket with ⟨v, fire, -, run⟩ | ⟨fire, run⟩
  · change s.debouncer.fire ticket = (s.debouncer.cancel, some v) at fire
    rw [fire] at scheduled
    let delivered : Timeline α := { s.taken with
      debouncer := s.debouncer.cancel, received := s.received ++ [(v, s.agenda.now)] }
    have T' : Tracks delay (log ++ [(.delivered v, s.agenda.now)]) delivered :=
      ⟨T.delay, scheduled, by simp [delivered, T.received]⟩
    rw [run]
    cases again : s.echo.again v with
    | none => simpa [turnLog, taken, fire, again, deliver, delivered] using T'
    | some w =>
      have T'' := T'.call w
      rw [List.append_assoc] at T''
      simpa [turnLog, taken, fire, again, deliver, delivered] using T''
  · change s.debouncer.fire ticket = (s.debouncer, none) at fire
    rw [fire] at scheduled
    have quiet : s.taken.turnLog (.fires ticket) = [] := by simp [turnLog, taken, fire]
    rw [run, quiet]
    exact ⟨T.delay, scheduled, by simpa [taken] using T.received⟩

/-- What happens of itself keeps timeline and log together. -/
theorem Step.tracks (step : Step s more t) (T : Tracks delay log s) :
    Tracks delay (log ++ more) t := by
  cases step with
  | pass _ idle =>
    rw [List.append_nil]
    exact ⟨T.delay, T.scheduled.pass idle, T.received⟩
  | @turn turn _ due =>
    cases turn with
    | fires ticket => exact T.fires due
    | opens ticket =>
      have scheduled := T.scheduled.opens (.fires ticket) due rfl rfl
      rw [run_opens, turnLog, List.append_nil]
      exact ⟨T.delay, scheduled, T.received⟩

theorem Move.tracks (move : Move s more t) (T : Tracks delay log s) :
    Tracks delay (log ++ more) t := by
  cases move with
  | call v => exact T.call v
  | cancel => exact T.cancel
  | alone step => exact step.tracks T

theorem Goes.tracks (run : Goes s more t) (T : Tracks delay log s) : Tracks delay (log ++ more) t :=
  run.preserves T Step.tracks

theorem Reaches.tracks {echo : Echo α} (run : Reaches (Timeline.start delay echo) log s) :
    Tracks delay log s := by
  have T : Tracks delay [] (Timeline.start delay echo) := ⟨rfl, .idle some delay, rfl⟩
  exact run.preserves T Move.tracks

end Moves

/-! ## Timed runs -/

theorem now_run (s : Timeline α) (turn : Turn) : (s.run turn).agenda.now = s.agenda.now := by
  cases turn with
  | opens ticket =>
    rw [run_opens]
    dsimp only
    split <;> rfl
  | fires ticket =>
    rcases s.run_fires_cases ticket with ⟨v, -, -, run⟩ | ⟨-, run⟩ <;> rw [run]
    unfold deliver
    dsimp only
    split <;> rfl

/-- A turn leads to fewer turns than it counts for. -/
theorem run_potential (s : Timeline α) (turn : Turn) :
    (s.run turn).potential < turn.weight + s.potential := by
  cases turn with
  | opens ticket =>
    have posted := Agenda.total_of_perm Turn.weight (Agenda.turns_post s.agenda (.fires ticket))
    have slept := Agenda.total_of_perm Turn.weight
      (Agenda.turns_sleep s.agenda s.debouncer.delay.toNat (.fires ticket))
    rw [run_opens]
    unfold potential
    dsimp only
    split <;> simp only [posted, slept, Turn.weight] <;> omega
  | fires ticket =>
    rcases s.run_fires_cases ticket with ⟨v, -, waiting, run⟩ | ⟨-, run⟩ <;> rw [run]
    · unfold deliver
      dsimp only
      split
      · rename_i w again
        have lower := s.echo.rank_lt again
        have called := Agenda.total_of_perm Turn.weight
          (Agenda.turns_post s.agenda (.opens (s.debouncer.tickets + 1)))
        simp only [potential, call, Debouncer.call, Debouncer.cancel, called, waiting,
          Turn.weight]
        omega
      · simp only [potential, Debouncer.cancel, waiting, Turn.weight]
        omega
    · exact Nat.lt_add_of_pos_left Nat.one_pos

theorem next_goes {delay : Int} {rest : Agenda Turn} (T : Tracks delay log s)
    (next : s.agenda.next? limit = some (turn, rest)) :
    ∃ more, Goes s more ({ s with agenda := rest }.run turn) := by
  obtain ⟨c, when, due, rfl⟩ := Agenda.next_cases T.scheduled.timed next
  have turned : Step { s with agenda := c } _ _ := .turn due
  rcases when with rfl | ⟨d, idle, rfl, -⟩
  · exact ⟨_, .one turned⟩
  · exact ⟨_, .step (.one (.pass _ idle)) turned⟩

section

variable (go : Timeline α → Bool) (limit : Option Nat)

/-- A timed run with fuel for every turn still to come goes as things go of themselves, and stops
because its condition fails or because nothing is due within the limit. -/
theorem runWhile_goes {delay : Int} (fuel : Nat) (T : Tracks delay log s)
    (enough : s.potential ≤ fuel) :
    ∃ more, Goes s more (runWhile go limit fuel s) ∧
      (go (runWhile go limit fuel s) = false ∨
        (runWhile go limit fuel s).agenda.next? limit = none) := by
  induction fuel generalizing s log with
  | zero =>
    refine ⟨[], .start, .inr ?_⟩
    cases next : s.agenda.next? limit with
    | none => exact next
    | some due =>
      have taken := Agenda.total_of_perm Turn.weight (Agenda.turns_next next)
      have weight : 0 < due.1.weight := by cases due.1 <;> exact Nat.succ_pos _
      simp only [potential] at enough
      omega
  | succ fuel ih =>
    cases more : go s with
    | false => exact ⟨[], by simpa [runWhile, more] using .start, .inl (by simp [runWhile, more])⟩
    | true =>
      cases next : s.agenda.next? limit with
      | none =>
        exact ⟨[], by simpa [runWhile, more, next] using .start,
          .inr (by simp [runWhile, more, next])⟩
      | some due =>
        obtain ⟨turn, rest⟩ := due
        obtain ⟨first, goes⟩ := next_goes T next
        have taken := Agenda.total_of_perm Turn.weight (Agenda.turns_next next)
        have lower := run_potential { s with agenda := rest } turn
        obtain ⟨second, goes', ended⟩ := ih (goes.tracks T) (by
          simp only [potential] at enough lower ⊢
          omega)
        have round : runWhile go limit (fuel + 1) s =
            runWhile go limit fuel ({ s with agenda := rest }.run turn) := by
          simp [runWhile, more, next]
        rw [round]
        exact ⟨first ++ second, goes.trans goes', ended⟩

theorem runWhile_now_le (fuel : Nat) (before : s.agenda.now ≤ time) :
    (runWhile go (some time) fuel s).agenda.now ≤ time := by
  induction fuel generalizing s with
  | zero => exact before
  | succ fuel ih =>
    unfold runWhile
    split
    · split
      · rename_i turn rest next
        refine ih ?_
        rw [now_run]
        exact Agenda.next_now_le next before
      · exact before
    · exact before

end

/-! ## What a debouncer has done -/

/-- What a debouncer has done by now: it delivered on the trailing edge, in the order of the calls,
and the call that waits is the latest one, neither delivered nor cancelled and, as soon as
nothing is due, still in its quiet time. -/
structure Debounces (delay : Int) (log : Log α) (s : Timeline α) : Prop where
  law : TrailingEdge delay.toNat s.agenda.now log
  received : s.received = log.deliveries
  inOrder : s.received.Sublist (log.calls.map (deliveryOf delay.toNat))
  pending : s.debouncer.pending = true ↔ ∃ c, log.open? = some c
  prompt : s.agenda.ready = [] → ∀ c, log.open? = some c → s.agenda.now < c.2 + delay.toNat

theorem Tracks.toDebounces {delay : Int} (T : Tracks delay log s) : Debounces delay log s := by
  have law := T.delay ▸ T.scheduled.law
  refine ⟨law, T.received, ?_, T.scheduled.pending_iff, fun none c waits => ?_⟩
  · rw [T.received]
    exact (List.sublist_append_left _ _).trans law.deliveries_sublist
  · rw [← T.delay]
    exact T.scheduled.lt_of_open none waits

/-- Whenever calls and cancellations come: every call is delivered exactly when its quiet time is
over, or superseded by a call or a cancellation before that. Time that is let pass goes to its
end and leaves nothing due, and a wait ends when no call waits. -/
theorem Reaches.debounces {delay : Int} {echo : Echo α}
    (run : Reaches (Timeline.start delay echo) log s) :
    Debounces delay log s ∧
      (∀ ms, ∃ more, Goes s more (s.advance ms) ∧ (s.advance ms).agenda.ready = [] ∧
        (s.advance ms).agenda.now = s.agenda.now + ms) ∧
      ∃ more, Goes s more s.wait ∧ s.wait.debouncer.pending = false := by
  have T := run.tracks
  refine ⟨T.toDebounces, fun ms => ?_, ?_⟩
  · let ended := runWhile (fun _ => true) (some (s.agenda.now + ms)) s.potential s
    obtain ⟨more, goes, done⟩ :=
      runWhile_goes (fun _ => true) (some (s.agenda.now + ms)) s.potential T (Nat.le_refl _)
    have timed := (goes.tracks T).scheduled.timed
    obtain ⟨ready, later⟩ := Agenda.next_eq_none timed (done.resolve_left (by simp))
    have passed : Step ended [] (s.advance ms) := by
      have idle : ended.agenda.IdleUntil (s.agenda.now + ms) :=
        ⟨ready, fun x hx => Nat.le_of_lt (later x hx)⟩
      have woken := Step.pass _ idle
      rwa [Agenda.wake_eq_advanceTo later] at woken
    have now : ended.agenda.now ≤ s.agenda.now + ms :=
      runWhile_now_le _ _ (Nat.le_add_right _ _)
    exact ⟨_, goes.step passed, ready, Nat.max_eq_right now⟩
  · obtain ⟨more, goes, done⟩ :=
      runWhile_goes (fun s => s.debouncer.pending) none s.potential T (Nat.le_refl _)
    refine ⟨more, goes, ?_⟩
    rcases done with idle | none
    · exact idle
    · exact (goes.tracks T).scheduled.not_pending (Agenda.turns_of_next_none none)

/-- The second call comes at the time when the quiet time of the first one is over, before its
delivery. -/
theorem debounces_of_late_call :
    ∃ s : Timeline String, Reaches (Timeline.start 300 .silent)
        [(.called "a", 0), (.called "b", 300), (.delivered "b", 600)] s ∧
      s.received = [("b", 600)] ∧ s.debouncer.pending = false := by
  have called₁ : Reaches (Timeline.start 300 .silent) _ _ := .one (.call _ "a")
  have opened₁ := called₁.step (.alone (.turn rfl))
  have passed₁ := opened₁.step (.alone (.pass 300 ⟨rfl, by decide⟩))
  have called₂ := passed₁.step (.call _ "b")
  have fired₁ := called₂.step (.alone (.turn rfl))
  have opened₂ := fired₁.step (.alone (.turn rfl))
  have passed₂ := opened₂.step (.alone (.pass 600 ⟨rfl, by decide⟩))
  have fired₂ := passed₂.step (.alone (.turn rfl))
  obtain ⟨done, -, -⟩ := Reaches.debounces fired₂
  exact ⟨_, fired₂, done.received, rfl⟩

end IncidentBoard.Timeline
