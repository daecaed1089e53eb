import IncidentBoard.Debouncer.Timeline
import IncidentBoard.Proofs.Agenda.Timing
import IncidentBoard.Proofs.Debouncer.Log

/-!
# Debouncers on an agenda

The turns of a debouncer on an agenda, among others that do not concern it: the quiet time of a
call begins at its time, and the turn that ends it comes exactly when it is over. As no turn is
overdue, the debouncer has a log of the trailing edge, whatever else the agenda holds.

## Main definitions

* `Debouncer.OnTime` — when a turn of a debouncer is due.
* `Debouncer.Scheduled` — debouncer, agenda and log belong together; one lemma for each move.
-/

namespace IncidentBoard

/-- The ticket of a turn. -/
def Timeline.Turn.ticket : Timeline.Turn → Nat
  | .opens ticket | .fires ticket => ticket

namespace Debouncer

variable {α τ : Type}

/-- The time of a turn: the quiet time of a call begins with it, and ends when it is over. -/
def OnTime (calls : List (α × Nat)) (quiet time : Nat) : Timeline.Turn → Prop
  | .opens ticket => ∃ c, calls[ticket - 1]? = some c ∧ time = c.2
  | .fires ticket => ∃ c, calls[ticket - 1]? = some c ∧ time = c.2 + quiet

/-- The ticket counts the calls up to its own, so its time stays when calls are added. -/
theorem OnTime.append {calls : List (α × Nat)} {quiet time : Nat} {turn : Timeline.Turn}
    (planned : OnTime calls quiet time turn) (more : List (α × Nat)) :
    OnTime (calls ++ more) quiet time turn := by
  cases turn <;>
  · obtain ⟨c, call, due⟩ := planned
    exact ⟨c, by rw [List.getElem?_append_left (List.getElem?_eq_some_iff.1 call).1, call], due⟩

/-- A debouncer, the agenda on which it has its turns, and what happened; `view` tells the turns of
the debouncer. -/
structure Scheduled (view : τ → Option Timeline.Turn) (d : Debouncer α) (a : Agenda τ)
    (log : Log α) : Prop where
  tickets : d.tickets = log.calls.length
  waiting : d.waiting = log.open?.map fun c => (d.tickets, c.1)
  timed : a.Timed fun time turn => ∀ t ∈ view turn, OnTime log.calls d.delay.toNat time t
  /-- The call that waits has a turn to come. -/
  present : log.open?.isSome → ∃ turn ∈ a.turns, ∃ t ∈ view turn, t.ticket = d.tickets
  law : TrailingEdge d.delay.toNat a.now log

namespace Scheduled

variable {view : τ → Option Timeline.Turn} {d : Debouncer α} {a : Agenda τ} {log : Log α}
  {turn new : τ} {rest : List τ} {ticket time : Nat} {c : α × Nat}

theorem idle (view : τ → Option Timeline.Turn) (delay : Int) :
    Scheduled view (.idle delay : Debouncer α) .empty [] :=
  ⟨rfl, rfl, .empty, nofun, .nil⟩

theorem pending_iff (S : Scheduled view d a log) :
    d.pending = true ↔ ∃ c, log.open? = some c := by
  simp [pending, S.waiting, Option.isSome_iff_exists]

/-- The call that waits has the ticket given out last. -/
theorem call_of_open (S : Scheduled view d a log) (waits : log.open? = some c) :
    log.calls[d.tickets - 1]? = some c := by
  rw [S.tickets, ← List.getLast?_eq_getElem?]
  exact Log.getLast?_calls waits

/-- While nothing is due, the turn of the call that waits sleeps, at most until its quiet time is
over. -/
theorem asleep (S : Scheduled view d a log) (none : a.ready = []) (waits : log.open? = some c) :
    ∃ x ∈ a.sleeping, x.1 ≤ c.2 + d.delay.toNat := by
  obtain ⟨turn, member, t, viewed, ticket⟩ := S.present (by simp [waits])
  simp only [Agenda.turns, none, List.nil_append, List.mem_map] at member
  obtain ⟨x, asleep, rfl⟩ := member
  have planned := S.timed.sleeping x asleep t viewed
  have call := S.call_of_open waits
  refine ⟨x, asleep, ?_⟩
  cases t <;>
  · obtain ⟨b, called, time⟩ := planned
    simp only [Timeline.Turn.ticket] at ticket
    rw [ticket, call, Option.some.injEq] at called
    subst called
    omega

/-- While nothing is due, the quiet time of the call that waits is not over. -/
theorem lt_of_open (S : Scheduled view d a log) (none : a.ready = []) (waits : log.open? = some c) :
    a.now < c.2 + d.delay.toNat := by
  obtain ⟨x, asleep, before⟩ := S.asleep none waits
  exact Nat.lt_of_lt_of_le (S.timed.future x asleep) before

theorem not_pending (S : Scheduled view d a log) (none : a.turns = []) : d.pending = false := by
  refine Bool.eq_false_iff.2 fun pending => ?_
  obtain ⟨c, waits⟩ := S.pending_iff.1 pending
  obtain ⟨turn, member, -⟩ := S.present (by simp [waits])
  simp [none] at member

/-! ### Moves of the debouncer -/

theorem call (S : Scheduled view d a log) (v : α) (turn : τ)
    (viewed : view turn = some (.opens (d.tickets + 1))) :
    Scheduled view (d.call v) (a.post turn) (log ++ [(.called v, a.now)]) where
  tickets := by simp [Debouncer.call, S.tickets]
  waiting := by simp [Debouncer.call, Log.called?]
  timed := by
    have earlier : a.Timed fun time turn => ∀ t ∈ view turn,
        OnTime (Log.calls (log ++ [(.called v, a.now)])) d.delay.toNat time t := by
      refine S.timed.mono fun time turn planned t ht => ?_
      rw [Log.calls_append]
      exact (planned t ht).append _
    refine earlier.post fun t ht => ?_
    rw [viewed] at ht
    cases ht
    exact ⟨(v, a.now), by simp [S.tickets], rfl⟩
  present _ := ⟨turn, (Agenda.turns_post a turn).mem_iff.2 (.head _), _, viewed, rfl⟩
  law := S.law.concat (.called v) nofun

theorem cancel (S : Scheduled view d a log) :
    Scheduled view d.cancel a (log ++ [(.cancelled, a.now)]) where
  tickets := by simp [Debouncer.cancel, S.tickets]
  waiting := by simp [Debouncer.cancel, Log.called?]
  timed := by simpa [Debouncer.cancel] using S.timed
  present waits := by simp [Log.called?] at waits
  law := S.law.concat .cancelled nofun

/-- Time passes while nothing is due. -/
theorem pass (S : Scheduled view d a log) (idle : a.IdleUntil time) :
    Scheduled view d (a.wake time) log where
  tickets := S.tickets
  waiting := S.waiting
  timed := S.timed.wake idle
  present waits := by
    rw [Agenda.turns_wake]
    exact S.present waits
  law := by
    refine S.law.pass (Nat.le_max_left _ _) fun c waits => ?_
    obtain ⟨x, asleep, before⟩ := S.asleep idle.ready waits
    refine Nat.max_le.2 ⟨Nat.le_of_lt (S.lt_of_open idle.ready waits), ?_⟩
    exact Nat.le_trans (idle.sleeping x asleep) before

/-! ### Turns -/

/-- A turn that is not that of the call that waits may go. -/
theorem behind (S : Scheduled view d a log) (due : a.ready = turn :: rest)
    (other : log.open?.isSome → ∀ t ∈ view turn, t.ticket ≠ d.tickets) :
    Scheduled view d a.behind log where
  tickets := S.tickets
  waiting := S.waiting
  timed := (S.timed.take due).2
  present waits := by
    obtain ⟨u, member, t, viewed, ticket⟩ := S.present waits
    rw [Agenda.turns_behind due] at member
    rcases List.mem_cons.1 member with rfl | member
    · exact absurd ticket (other waits t viewed)
    · exact ⟨u, member, t, viewed, ticket⟩
  law := S.law

/-- The quiet time of a call begins. -/
theorem opens (S : Scheduled view d a log) (new : τ) (due : a.ready = turn :: rest)
    (viewed : view turn = some (.opens ticket)) (next : view new = some (.fires ticket)) :
    Scheduled view d
      (if 0 < d.delay then a.behind.sleep d.delay.toNat new else a.behind.post new) log := by
  obtain ⟨planned, timed⟩ := S.timed.take due
  obtain ⟨c, call, now⟩ := planned _ viewed
  -- The turn that ends the quiet time takes the place of the one that begins it.
  have present : ∀ b : Agenda τ, b.turns.Perm (new :: a.behind.turns) → log.open?.isSome →
      ∃ u ∈ b.turns, ∃ t ∈ view u, t.ticket = d.tickets := by
    intro b perm waits
    obtain ⟨u, member, t, shown, same⟩ := S.present waits
    rw [Agenda.turns_behind due] at member
    rcases List.mem_cons.1 member with rfl | member
    · rw [viewed] at shown
      cases shown
      exact ⟨new, perm.mem_iff.2 (.head _), _, next, same⟩
    · exact ⟨u, perm.mem_iff.2 (.tail _ member), t, shown, same⟩
  split
  · rename_i positive
    refine ⟨S.tickets, S.waiting, timed.sleep (by omega) fun t ht => ?_,
      present _ (Agenda.turns_sleep _ _ _), S.law⟩
    rw [next] at ht
    cases ht
    exact ⟨c, call, congrArg (· + d.delay.toNat) now⟩
  · rename_i none
    refine ⟨S.tickets, S.waiting, timed.post fun t ht => ?_,
      present _ (Agenda.turns_post _ _), S.law⟩
    rw [next] at ht
    cases ht
    exact ⟨c, call, by simp only [Agenda.now_behind]; omega⟩

/-- The quiet time of a call is over. -/
theorem fires (S : Scheduled view d a log) (due : a.ready = turn :: rest)
    (viewed : view turn = some (.fires ticket)) :
    Scheduled view (d.fire ticket).1 a.behind
      (log ++ (d.fire ticket).2.toList.map fun v => (.delivered v, a.now)) := by
  rcases d.fire_cases ticket with ⟨v, waiting, fire⟩ | ⟨others, fire⟩ <;> rw [fire]
  · obtain ⟨c, waits, same⟩ := Option.map_eq_some_iff.1 (S.waiting.symm.trans waiting)
    obtain ⟨rfl, rfl⟩ := Prod.mk.inj same
    obtain ⟨b, call, now⟩ := (S.timed.take due).1 _ viewed
    rw [S.call_of_open waits, Option.some.injEq] at call
    subst call
    have law := S.law.concat (.delivered c.1) fun w hw => ⟨c.2, by cases hw; exact waits, now⟩
    exact ⟨by simp [Debouncer.cancel, S.tickets], by simp [Debouncer.cancel, Log.called?],
      by simpa [Debouncer.cancel] using (S.timed.take due).2, by simp [Log.called?], law⟩
  · rw [Option.toList_none, List.map_nil, List.append_nil]
    refine S.behind due fun waits t ht same => ?_
    obtain ⟨c, waits⟩ := Option.isSome_iff_exists.1 waits
    rw [viewed] at ht
    cases ht
    have last : ticket = d.tickets := same
    exact others c.1 (by simp [S.waiting, waits, last])

/-! ### Turns that do not concern the debouncer -/

theorem post (S : Scheduled view d a log) (other : view new = none) :
    Scheduled view d (a.post new) log where
  tickets := S.tickets
  waiting := S.waiting
  timed := S.timed.post (by simp [other])
  present waits := by
    obtain ⟨u, member, shown⟩ := S.present waits
    exact ⟨u, (Agenda.turns_post a new).mem_iff.2 (.tail _ member), shown⟩
  law := S.law

theorem sleep {ms : Nat} (S : Scheduled view d a log) (later : 0 < ms) (other : view new = none) :
    Scheduled view d (a.sleep ms new) log where
  tickets := S.tickets
  waiting := S.waiting
  timed := S.timed.sleep later (by simp [other])
  present waits := by
    obtain ⟨u, member, shown⟩ := S.present waits
    exact ⟨u, (Agenda.turns_sleep a ms new).mem_iff.2 (.tail _ member), shown⟩
  law := S.law

end Scheduled

end Debouncer

end IncidentBoard
