/-!
# Debouncing

Calls that follow each other quickly count as one: a call is delivered when a quiet time has
passed, unless another call or a cancellation came before the delivery. Every call gets a ticket,
and a ticket that comes due is delivered only while its call is the one that waits.

## Main definitions

* `Debouncer` — the quiet time and the call that waits.
* `Debouncer.call`, `Debouncer.cancel`, `Debouncer.fire` — a call, a cancellation, and a ticket
  that comes due.
-/

namespace IncidentBoard

/-- The quiet time in milliseconds, the call that waits, and the tickets given out so far. -/
structure Debouncer (α : Type) where
  delay : Int
  waiting : Option (Nat × α)
  tickets : Nat
  deriving Repr

namespace Debouncer

variable {α : Type}

def idle (delay : Int) : Debouncer α := ⟨delay, none, 0⟩

def pending (d : Debouncer α) : Bool := d.waiting.isSome

/-- A call: it takes the place of the one that waits. The new ticket is the count of tickets. -/
def call (d : Debouncer α) (value : α) : Debouncer α :=
  { d with waiting := some (d.tickets + 1, value), tickets := d.tickets + 1 }

def cancel (d : Debouncer α) : Debouncer α := { d with waiting := none }

/-- A ticket comes due: the value to deliver, if its call still waits. -/
def fire (d : Debouncer α) (ticket : Nat) : Debouncer α × Option α :=
  match d.waiting with
  | some (t, value) => if t = ticket then (d.cancel, some value) else (d, none)
  | none => (d, none)

@[simp] theorem pending_idle (delay : Int) : (idle delay : Debouncer α).pending = false := rfl

@[simp] theorem pending_call (d : Debouncer α) (v : α) : (d.call v).pending = true := rfl

@[simp] theorem pending_cancel (d : Debouncer α) : d.cancel.pending = false := rfl

@[simp] theorem fire_call (d : Debouncer α) (v : α) :
    ((d.call v).fire (d.tickets + 1)).2 = some v := by
  simp [fire, call]

@[simp] theorem fire_cancel (d : Debouncer α) (t : Nat) : d.cancel.fire t = (d.cancel, none) := rfl

/-- A ticket is delivered exactly when its call is the one that waits. -/
theorem fire_cases (d : Debouncer α) (ticket : Nat) :
    (∃ v, d.waiting = some (ticket, v) ∧ d.fire ticket = (d.cancel, some v)) ∨
      ((∀ v, d.waiting ≠ some (ticket, v)) ∧ d.fire ticket = (d, none)) := by
  unfold fire
  split
  · rename_i t value waiting
    by_cases ht : t = ticket
    · exact .inl ⟨value, ht ▸ waiting, by simp [ht]⟩
    · exact .inr ⟨fun v => by simp [waiting, ht], by simp [ht]⟩
  · rename_i waiting
    exact .inr ⟨fun v => by simp [waiting], rfl⟩

end Debouncer

end IncidentBoard
