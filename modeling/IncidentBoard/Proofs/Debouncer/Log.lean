import IncidentBoard.Proofs.Lists
import Mathlib.Data.List.Basic
import Mathlib.Data.List.Induction

/-!
# The trailing edge

What happens at a debouncer, in order and with its times. A call is answered by what happens next:
its delivery, exactly when its quiet time is over, or another call or a cancellation, which come
before its delivery and take the place of it. Nothing else is ever delivered.

## Main definitions

* `Debouncer.Event`, `Debouncer.Log` — what happens, and everything that happened.
* `Debouncer.Log.calls`, `Debouncer.Log.deliveries`, `Debouncer.Log.open?` — the calls, the
  deliveries, and the call that waits.
* `Debouncer.TrailingEdge` — what makes a log that of a debouncer.
* `Debouncer.TrailingEdge.deliveries_sublist` — deliveries come in the order of their calls.
-/

namespace IncidentBoard.Debouncer

variable {α : Type}

/-- What happens at a debouncer. -/
inductive Event (α : Type) where
  | called (value : α)
  | cancelled
  | delivered (value : α)
  deriving DecidableEq, Repr

/-- Everything that happened, in order and with its times. -/
abbrev Log (α : Type) := List (Event α × Nat)

namespace Log

def called? : Event α × Nat → Option (α × Nat)
  | (.called v, t) => some (v, t)
  | _ => none

def delivered? : Event α × Nat → Option (α × Nat)
  | (.delivered v, t) => some (v, t)
  | _ => none

/-- The calls with their times. -/
def calls (log : Log α) : List (α × Nat) := log.filterMap called?

/-- The deliveries with their times. -/
def deliveries (log : Log α) : List (α × Nat) := log.filterMap delivered?

/-- The latest call, if nothing has happened since: it is neither delivered nor cancelled. -/
def open? (log : Log α) : Option (α × Nat) := log.getLast?.bind called?

section Append

variable (log more : Log α) (v : α) (time : Nat)

@[simp] theorem calls_append : calls (log ++ more) = log.calls ++ calls more :=
  List.filterMap_append

@[simp] theorem calls_called : calls [(.called v, time)] = [(v, time)] := rfl

@[simp] theorem calls_cancelled : calls [((.cancelled : Event α), time)] = [] := rfl

@[simp] theorem calls_delivered : calls [(.delivered v, time)] = [] := rfl

@[simp] theorem deliveries_append : deliveries (log ++ more) = log.deliveries ++ deliveries more :=
  List.filterMap_append

@[simp] theorem deliveries_called : deliveries [(.called v, time)] = [] := rfl

@[simp] theorem deliveries_cancelled : deliveries [((.cancelled : Event α), time)] = [] := rfl

@[simp] theorem deliveries_delivered : deliveries [(.delivered v, time)] = [(v, time)] := rfl

@[simp] theorem open?_concat (x : Event α × Nat) : open? (log ++ [x]) = called? x := by
  simp [open?]

end Append

theorem open?_eq_some_iff {log : Log α} {c : α × Nat} :
    log.open? = some c ↔ ∃ before, log = before ++ [(.called c.1, c.2)] := by
  rcases List.eq_nil_or_concat log with rfl | ⟨before, ⟨e, time⟩, rfl⟩
  · simp [open?]
  · cases e <;> simp [called?, Prod.ext_iff]

/-- The call that waits is the latest one. -/
theorem getLast?_calls {log : Log α} {c : α × Nat} (waits : log.open? = some c) :
    log.calls.getLast? = some c := by
  obtain ⟨before, rfl⟩ := open?_eq_some_iff.1 waits
  simp

end Log

/-! ## The law -/

/-- What comes next after a call: nothing so far, its delivery when the quiet time is over, or
another call or a cancellation by then. -/
def Answered (quiet now : Nat) (v : α) (time : Nat) : Log α → Prop
  | [] => now ≤ time + quiet
  | (.delivered w, t) :: _ => w = v ∧ t = time + quiet
  | (.called _, t) :: _ => t ≤ time + quiet
  | (.cancelled, t) :: _ => t ≤ time + quiet

/-- A log that a debouncer may have at a time: its calls are answered, and what is delivered is the
call right before, when its quiet time is over. -/
structure TrailingEdge (quiet now : Nat) (log : Log α) : Prop where
  ordered : log.Pairwise fun x y => x.2 ≤ y.2
  past : ∀ x ∈ log, x.2 ≤ now
  calls : ∀ before v time after, log = before ++ (.called v, time) :: after →
    Answered quiet now v time after
  deliveries : ∀ before v time after, log = before ++ (.delivered v, time) :: after →
    ∃ earlier called, before = earlier ++ [(.called v, called)] ∧ time = called + quiet

/-- The delivery of a call, with its time. -/
def deliveryOf (quiet : Nat) (c : α × Nat) : α × Nat := (c.1, c.2 + quiet)

namespace TrailingEdge

variable {quiet now : Nat} {log : Log α}

theorem nil : TrailingEdge quiet now ([] : Log α) := ⟨.nil, nofun, by simp, by simp⟩

/-- One event more; only the call that waits is delivered, when its quiet time is over. -/
theorem concat (L : TrailingEdge quiet now log) (e : Event α)
    (delivers : ∀ v, e = .delivered v → ∃ time, log.open? = some (v, time) ∧ now = time + quiet) :
    TrailingEdge quiet now (log ++ [(e, now)]) where
  ordered := by
    refine List.pairwise_append.2 ⟨L.ordered, List.pairwise_singleton .., fun x hx y hy => ?_⟩
    rw [List.mem_singleton.1 hy]
    exact L.past x hx
  past x hx := by
    rcases List.mem_append.1 hx with hx | hx
    · exact L.past x hx
    · exact Nat.le_of_eq (congrArg Prod.snd (List.mem_singleton.1 hx))
  calls before v time after split := by
    rcases concat_eq_split_iff.1 split with ⟨-, called, rfl⟩ | ⟨rest, earlier, rfl⟩
    · cases called
      exact Nat.le_add_right _ _
    · have answered := L.calls before v time rest earlier
      cases rest with
      | cons next rest =>
        obtain ⟨f, t⟩ := next
        cases f <;> exact answered
      | nil =>
        cases e with
        | called w => exact answered
        | cancelled => exact answered
        | delivered w =>
          obtain ⟨called, waits, ended⟩ := delivers w rfl
          subst earlier
          simp only [Log.open?_concat, Log.called?, Option.some.injEq, Prod.mk.injEq] at waits
          exact ⟨waits.1.symm, waits.2 ▸ ended⟩
  deliveries before v time after split := by
    rcases concat_eq_split_iff.1 split with ⟨rfl, delivered, rfl⟩ | ⟨rest, earlier, rfl⟩
    · cases delivered
      obtain ⟨called, waits, ended⟩ := delivers v rfl
      obtain ⟨earlier, rfl⟩ := Log.open?_eq_some_iff.1 waits
      exact ⟨earlier, called, rfl, ended⟩
    · exact L.deliveries before v time rest earlier

/-- Time passes, at most until the quiet time of the call that waits is over. -/
theorem pass {later : Nat} (L : TrailingEdge quiet now log) (forward : now ≤ later)
    (within : ∀ c, log.open? = some c → later ≤ c.2 + quiet) : TrailingEdge quiet later log where
  ordered := L.ordered
  past x hx := Nat.le_trans (L.past x hx) forward
  calls before v time after split := by
    have answered := L.calls before v time after split
    cases after with
    | nil => exact within (v, time) (Log.open?_eq_some_iff.2 ⟨before, split⟩)
    | cons next rest =>
      obtain ⟨e, t⟩ := next
      cases e <;> exact answered
  deliveries := L.deliveries

/-- What came before the latest event. -/
theorem of_concat {x : Event α × Nat} (L : TrailingEdge quiet now (log ++ [x])) :
    TrailingEdge quiet x.2 log where
  ordered := L.ordered.sublist (List.sublist_append_left log [x])
  past y hy := (List.pairwise_append.1 L.ordered).2.2 y hy x (List.mem_singleton_self x)
  calls before v time after split := by
    have answered := L.calls before v time (after ++ [x]) (by simp [split])
    cases after with
    | cons next rest =>
      obtain ⟨e, t⟩ := next
      cases e <;> exact answered
    | nil =>
      obtain ⟨e, t⟩ := x
      cases e with
      | delivered w => exact Nat.le_of_eq answered.2
      | called w => exact answered
      | cancelled => exact answered
  deliveries before v time after split :=
    L.deliveries before v time (after ++ [x]) (by simp [split])

/-- Deliveries come in the order of their calls, one at most for each call, and the call that waits
comes after all of them. -/
theorem deliveries_sublist (L : TrailingEdge quiet now log) :
    (log.deliveries ++ (log.open?.map (deliveryOf quiet)).toList).Sublist
      (log.calls.map (deliveryOf quiet)) := by
  induction log using List.reverseRecOn generalizing now with
  | nil => exact .refl _
  | append_singleton log x ih =>
    have sublist := ih L.of_concat
    obtain ⟨e, time⟩ := x
    cases e with
    | called v =>
      have earlier := (List.sublist_append_left _ _).trans sublist
      simpa [Log.called?] using earlier.append_right [deliveryOf quiet (v, time)]
    | cancelled =>
      have earlier := (List.sublist_append_left _ _).trans sublist
      simpa [Log.called?] using earlier
    | delivered v =>
      -- The delivery takes the place of the call that waited.
      obtain ⟨earlier, called, waits, rfl⟩ := L.deliveries log v time [] rfl
      have call : Log.open? log = some (v, called) := Log.open?_eq_some_iff.2 ⟨earlier, waits⟩
      simpa [Log.called?, call, deliveryOf] using sublist

end TrailingEdge

end IncidentBoard.Debouncer
