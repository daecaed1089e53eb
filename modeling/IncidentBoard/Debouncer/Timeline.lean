import IncidentBoard.Agenda
import IncidentBoard.Debouncer

/-!
# A debouncer in time

A debouncer on an agenda, whose deliveries are kept with their times. A delivery may call the
debouncer again; each such call ranks below the one that made it, so a chain of them ends.

## Main definitions

* `Echo` — the call that the delivery of a value makes.
* `Timeline` — the debouncer, the agenda and the deliveries so far.
* `Timeline.call`, `Timeline.cancel`, `Timeline.advance`, `Timeline.wait` — what is done from
  outside.
-/

namespace IncidentBoard

/-- The calls that deliveries make: a value that is called again ranks below the delivered one. -/
structure Echo (α : Type) where
  again : α → Option α
  rank : α → Nat
  rank_lt : ∀ {v w : α}, again v = some w → rank w < rank v

def Echo.silent {α : Type} : Echo α := ⟨fun _ => none, fun _ => 0, by simp⟩

/-- What becomes due for a ticket: its quiet time begins, or ends. -/
inductive Timeline.Turn where
  | opens (ticket : Nat)
  | fires (ticket : Nat)
  deriving DecidableEq, Repr

/-- A debouncer on an agenda, and its deliveries. -/
structure Timeline (α : Type) where
  echo : Echo α
  debouncer : Debouncer α
  agenda : Agenda Timeline.Turn
  received : List (α × Nat)

namespace Timeline

variable {α : Type}

def start (delay : Int) (echo : Echo α) : Timeline α :=
  ⟨echo, .idle delay, .empty, []⟩

def call (s : Timeline α) (value : α) : Timeline α :=
  let d := s.debouncer.call value
  { s with debouncer := d, agenda := s.agenda.post (.opens d.tickets) }

def cancel (s : Timeline α) : Timeline α := { s with debouncer := s.debouncer.cancel }

def deliver (s : Timeline α) (value : α) : Timeline α :=
  let s := { s with received := s.received ++ [(value, s.agenda.now)] }
  match s.echo.again value with
  | some next => s.call next
  | none => s

/-- A turn becomes due. A quiet time that is not positive still lets the others go first. -/
def run (s : Timeline α) : Turn → Timeline α
  | .opens ticket =>
    if 0 < s.debouncer.delay then
      { s with agenda := s.agenda.sleep s.debouncer.delay.toNat (.fires ticket) }
    else { s with agenda := s.agenda.post (.fires ticket) }
  | .fires ticket =>
    let (d, value) := s.debouncer.fire ticket
    let s := { s with debouncer := d }
    match value with
    | some v => s.deliver v
    | none => s

/-- Run the turns within a limit, as long as a condition holds; `fuel` bounds their number. -/
def runWhile (go : Timeline α → Bool) (limit : Option Nat) : Nat → Timeline α → Timeline α
  | 0, s => s
  | fuel + 1, s =>
    if go s then
      match s.agenda.next? limit with
      | some (turn, rest) => runWhile go limit fuel ({ s with agenda := rest }.run turn)
      | none => s
    else s

/-- How many turns a turn may lead to, itself included, apart from what a delivery calls. -/
def Turn.weight : Turn → Nat
  | .opens _ => 2
  | .fires _ => 1

/-- A bound on the number of turns still to come. -/
def potential (s : Timeline α) : Nat :=
  s.agenda.total Turn.weight +
    (match s.debouncer.waiting with
      | some (_, v) => 3 * s.echo.rank v
      | none => 0)

/-- Let some milliseconds pass, and everything that is due by then happen. -/
def advance (s : Timeline α) (ms : Nat) : Timeline α :=
  let time := s.agenda.now + ms
  let s := runWhile (fun _ => true) (some time) s.potential s
  { s with agenda := s.agenda.advanceTo time }

def wait (s : Timeline α) : Timeline α :=
  runWhile (fun s => s.debouncer.pending) none s.potential s

end Timeline

end IncidentBoard
