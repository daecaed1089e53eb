/-!
# Agenda

Turns that are due now, in the order in which they were posted, and turns that sleep until a
later time. The clock stands still while a turn is due; when none is, it moves to the earliest
deadline and all turns of that deadline become due, in the order in which they were put to sleep.

## Main definitions

* `Agenda` — the turns and the clock, in milliseconds.
* `Agenda.post`, `Agenda.sleep` — a turn for now, and one for later.
* `Agenda.next?` — the next turn, if one is due or has a deadline within a limit.
-/

namespace IncidentBoard

/-- Turns due now, and sleeping turns with their deadlines in ascending order. -/
structure Agenda (τ : Type) where
  now : Nat
  ready : List τ
  sleeping : List (Nat × τ)
  deriving Repr

namespace Agenda

variable {τ : Type}

def empty : Agenda τ := ⟨0, [], []⟩

instance : Inhabited (Agenda τ) := ⟨empty⟩

def post (a : Agenda τ) (turn : τ) : Agenda τ := { a with ready := a.ready ++ [turn] }

/-- Insert a deadline behind all deadlines that are not later. -/
def insert (deadline : Nat) (turn : τ) : List (Nat × τ) → List (Nat × τ)
  | [] => [(deadline, turn)]
  | (d, t) :: rest =>
    if deadline < d then (deadline, turn) :: (d, t) :: rest
    else (d, t) :: insert deadline turn rest

def sleep (a : Agenda τ) (ms : Nat) (turn : τ) : Agenda τ :=
  { a with sleeping := insert (a.now + ms) turn a.sleeping }

/-- Move the clock to a deadline that is not past; the turns of that deadline become due. -/
def wake (a : Agenda τ) (deadline : Nat) : Agenda τ :=
  let due := a.sleeping.takeWhile fun s => s.1 ≤ deadline
  ⟨max a.now deadline, a.ready ++ due.map (·.2), a.sleeping.drop due.length⟩

/-- Whether a deadline lies within a limit; without a limit every one does. -/
def within (limit : Option Nat) (deadline : Nat) : Bool :=
  match limit with
  | none => true
  | some l => deadline ≤ l

/-- The next turn, and the agenda without it. -/
def next? (limit : Option Nat) (a : Agenda τ) : Option (τ × Agenda τ) :=
  match a.ready with
  | t :: rest => some (t, { a with ready := rest })
  | [] =>
    match a.sleeping with
    | [] => none
    | (d, t) :: rest =>
      if within limit d then
        let awake := wake { a with sleeping := rest } d
        some (t, awake)
      else none

def advanceTo (a : Agenda τ) (time : Nat) : Agenda τ := { a with now := max a.now time }

def turns (a : Agenda τ) : List τ := a.ready ++ a.sleeping.map (·.2)

/-- The total of a measure over all turns. -/
def total (weight : τ → Nat) (a : Agenda τ) : Nat :=
  a.turns.foldr (fun t n => weight t + n) 0

@[simp] theorem turns_empty : (empty : Agenda τ).turns = [] := rfl

theorem turns_post (a : Agenda τ) (turn : τ) : (a.post turn).turns.Perm (turn :: a.turns) := by
  simp only [turns, post, List.append_assoc, List.singleton_append]
  exact List.perm_middle

theorem insert_perm (d : Nat) (t : τ) (xs : List (Nat × τ)) :
    (insert d t xs).Perm ((d, t) :: xs) := by
  induction xs with
  | nil => exact List.Perm.refl _
  | cons x rest ih =>
    unfold insert
    split
    · exact List.Perm.refl _
    · exact (ih.cons x).trans (List.Perm.swap ..)

theorem turns_sleep (a : Agenda τ) (ms : Nat) (turn : τ) :
    (a.sleep ms turn).turns.Perm (turn :: a.turns) := by
  simp only [turns, sleep]
  have h := (insert_perm (a.now + ms) turn a.sleeping).map (·.2)
  exact (h.append_left a.ready).trans List.perm_middle

theorem turns_wake (a : Agenda τ) (d : Nat) : (a.wake d).turns = a.turns := by
  simp only [turns, wake, List.append_assoc]
  congr 1
  rw [← List.map_append]
  congr 1
  have h : ∀ xs : List (Nat × τ), xs.takeWhile (fun s => decide (s.1 ≤ d)) ++
      xs.drop (xs.takeWhile fun s => decide (s.1 ≤ d)).length = xs := by
    intro xs
    induction xs with
    | nil => rfl
    | cons x rest ih => by_cases hx : x.1 ≤ d <;> simp [List.takeWhile, hx, ih]
  exact h a.sleeping

/-- Taking the next turn takes exactly that turn from the agenda. -/
theorem turns_next {limit : Option Nat} {a b : Agenda τ} {t : τ} (h : a.next? limit = some (t, b)) :
    a.turns.Perm (t :: b.turns) := by
  unfold next? at h
  split at h
  · rename_i t' rest hr
    cases h
    simp [turns, hr]
  · rename_i hr
    split at h
    · cases h
    · rename_i d t' rest hs
      split at h
      · simp only [Option.some.injEq, Prod.mk.injEq] at h
        obtain ⟨rfl, rfl⟩ := h
        rw [turns_wake]
        simp [turns, hr, hs]
      · cases h

end Agenda

end IncidentBoard
