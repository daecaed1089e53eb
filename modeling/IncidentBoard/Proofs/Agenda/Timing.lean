import IncidentBoard.Agenda
import Mathlib.Data.List.Perm.Basic
import Mathlib.Data.List.TakeWhile

/-!
# Agendas in time

No turn of an agenda is overdue: the deadlines of sleeping turns are still to come and in ascending
order, and the clock moves on only when nothing is due, at most to the earliest deadline. So what
holds of every turn at the time for which it was planned holds of it when it is taken.

## Main definitions

* `Agenda.Timed` — nothing is overdue, and every turn has a property at the time it is due.
* `Agenda.IdleUntil` — the clock may move on to a time.
* `Agenda.next_cases` — the next turn is taken after the clock has moved on if nothing is due.
-/

namespace IncidentBoard.Agenda

variable {τ : Type} {P Q : Nat → τ → Prop} {a b : Agenda τ} {turn : τ} {time : Nat}

/-- Nothing is overdue, and every turn has a property at the time at which it is due. -/
structure Timed (P : Nat → τ → Prop) (a : Agenda τ) : Prop where
  sorted : a.sleeping.Pairwise fun x y => x.1 ≤ y.1
  future : ∀ x ∈ a.sleeping, a.now < x.1
  ready : ∀ t ∈ a.ready, P a.now t
  sleeping : ∀ x ∈ a.sleeping, P x.1 x.2

/-- Nothing is due, and no deadline comes before a time. -/
structure IdleUntil (a : Agenda τ) (time : Nat) : Prop where
  ready : a.ready = []
  sleeping : ∀ x ∈ a.sleeping, time ≤ x.1

/-- The agenda without the first of the turns that are due. -/
def behind (a : Agenda τ) : Agenda τ := { a with ready := a.ready.tail }

@[simp] theorem now_post (a : Agenda τ) (turn : τ) : (a.post turn).now = a.now := rfl

@[simp] theorem now_sleep (a : Agenda τ) (ms : Nat) (turn : τ) : (a.sleep ms turn).now = a.now :=
  rfl

@[simp] theorem now_behind (a : Agenda τ) : a.behind.now = a.now := rfl

@[simp] theorem sleeping_behind (a : Agenda τ) : a.behind.sleeping = a.sleeping := rfl

theorem turns_behind {rest : List τ} (due : a.ready = turn :: rest) :
    a.turns = turn :: a.behind.turns := by
  simp [turns, behind, due]

theorem total_of_perm (weight : τ → Nat) (h : a.turns.Perm (turn :: b.turns)) :
    a.total weight = weight turn + b.total weight := by
  have : LeftCommutative fun (t : τ) n => weight t + n := ⟨fun t u n => by omega⟩
  exact h.foldr_eq 0

theorem turns_of_next_none (h : a.next? none = none) : a.turns = [] := by
  unfold next? at h
  split at h
  · cases h
  · rename_i ready
    split at h
    · rename_i sleeping
      simp [turns, ready, sleeping]
    · cases h

/-! ## Sleeping turns -/

theorem mem_insert {d : Nat} {xs : List (Nat × τ)} {x : Nat × τ} :
    x ∈ insert d turn xs ↔ x = (d, turn) ∨ x ∈ xs := by
  rw [(insert_perm d turn xs).mem_iff, List.mem_cons]

theorem insert_sorted (d : Nat) (turn : τ) {xs : List (Nat × τ)}
    (sorted : xs.Pairwise fun x y => x.1 ≤ y.1) :
    (insert d turn xs).Pairwise fun x y => x.1 ≤ y.1 := by
  induction xs with
  | nil => simp [insert]
  | cons x rest ih =>
    obtain ⟨first, later⟩ := List.pairwise_cons.1 sorted
    unfold insert
    split
    · rename_i before
      refine List.pairwise_cons.2 ⟨fun y hy => ?_, sorted⟩
      rcases List.mem_cons.1 hy with rfl | hy
      · exact Nat.le_of_lt before
      · exact Nat.le_trans (Nat.le_of_lt before) (first y hy)
    · rename_i after
      refine List.pairwise_cons.2 ⟨fun y hy => ?_, ih later⟩
      rcases mem_insert.1 hy with rfl | hy
      · exact Nat.le_of_not_lt after
      · exact first y hy

/-! ## Time passes -/

/-- When the clock moves on to a time, the turns of that deadline are due. -/
theorem wake_ready (idle : a.IdleUntil time) :
    ∀ t ∈ (a.wake time).ready, (time, t) ∈ a.sleeping := by
  intro t member
  simp only [wake, idle.ready, List.nil_append, List.mem_map] at member
  obtain ⟨x, woken, rfl⟩ := member
  have asleep := (List.takeWhile_sublist _).subset woken
  have reached : x.1 ≤ time := by simpa using List.mem_takeWhile_imp woken
  exact Nat.le_antisymm (idle.sleeping x asleep) reached ▸ asleep

theorem wake_sleeping_sublist (a : Agenda τ) (time : Nat) :
    (a.wake time).sleeping.Sublist a.sleeping := List.drop_sublist _ _

/-- The turns that sleep on have later deadlines. -/
theorem lt_of_mem_wake_sleeping (sorted : a.sleeping.Pairwise fun x y => x.1 ≤ y.1) :
    ∀ x ∈ (a.wake time).sleeping, time < x.1 := by
  simp only [wake]
  generalize a.sleeping = xs at sorted
  induction xs with
  | nil => simp
  | cons y rest ih =>
    obtain ⟨first, later⟩ := List.pairwise_cons.1 sorted
    by_cases woken : y.1 ≤ time
    · simpa [List.takeWhile_cons, woken] using ih later
    · intro x hx
      rcases List.mem_cons.1 (List.mem_of_mem_drop hx) with rfl | hx
      · exact Nat.lt_of_not_le woken
      · exact Nat.lt_of_lt_of_le (Nat.lt_of_not_le woken) (first x hx)

/-- Where all deadlines come later, moving on to a time wakes nothing. -/
theorem wake_eq_advanceTo (later : ∀ x ∈ a.sleeping, time < x.1) :
    a.wake time = a.advanceTo time := by
  have none : a.sleeping.takeWhile (fun x => decide (x.1 ≤ time)) = [] := by
    cases sleeping : a.sleeping with
    | nil => rfl
    | cons x rest => simp [later x (by simp [sleeping])]
  simp [wake, advanceTo, none]

/-! ## What holds of turns when they are due -/

namespace Timed

theorem empty : Timed P (empty : Agenda τ) := ⟨.nil, nofun, nofun, nofun⟩

theorem mono (T : Timed P a) (weaken : ∀ time turn, P time turn → Q time turn) : Timed Q a :=
  ⟨T.sorted, T.future, fun t ht => weaken _ t (T.ready t ht),
    fun x hx => weaken _ _ (T.sleeping x hx)⟩

theorem post (T : Timed P a) (planned : P a.now turn) : Timed P (a.post turn) where
  sorted := T.sorted
  future := T.future
  ready t ht := by
    rcases List.mem_append.1 ht with ht | ht
    · exact T.ready t ht
    · exact List.mem_singleton.1 ht ▸ planned
  sleeping := T.sleeping

theorem sleep {ms : Nat} (T : Timed P a) (later : 0 < ms) (planned : P (a.now + ms) turn) :
    Timed P (a.sleep ms turn) where
  sorted := insert_sorted _ _ T.sorted
  future x hx := by
    rcases mem_insert.1 hx with rfl | hx
    · exact Nat.lt_add_of_pos_right later
    · exact T.future x hx
  ready := T.ready
  sleeping x hx := by
    rcases mem_insert.1 hx with rfl | hx
    · exact planned
    · exact T.sleeping x hx

/-- The first of the turns that are due has its property now. -/
theorem take {rest : List τ} (T : Timed P a) (due : a.ready = turn :: rest) :
    P a.now turn ∧ Timed P a.behind :=
  ⟨T.ready turn (by simp [due]), T.sorted, T.future,
    fun t ht => T.ready t (List.mem_of_mem_tail ht), T.sleeping⟩

theorem wake (T : Timed P a) (idle : a.IdleUntil time) : Timed P (a.wake time) where
  sorted := T.sorted.sublist (a.wake_sleeping_sublist time)
  future x hx := by
    have asleep := (a.wake_sleeping_sublist time).subset hx
    exact Nat.max_lt.2 ⟨T.future x asleep, lt_of_mem_wake_sleeping T.sorted x hx⟩
  ready t ht := by
    have asleep := wake_ready idle t ht
    have now : (a.wake time).now = time := Nat.max_eq_right (Nat.le_of_lt (T.future _ asleep))
    rw [now]
    exact T.sleeping _ asleep
  sleeping x hx := T.sleeping x ((a.wake_sleeping_sublist time).subset hx)

end Timed

/-! ## The next turn -/

/-- The next turn is the first one due, once the clock has moved on if none is. -/
theorem next_cases {limit : Option Nat} (T : Timed P a) (h : a.next? limit = some (turn, b)) :
    ∃ c : Agenda τ, (c = a ∨ ∃ d, a.IdleUntil d ∧ c = a.wake d ∧ within limit d = true) ∧
      c.ready = turn :: b.ready ∧ c.behind = b := by
  unfold next? at h
  split at h
  · rename_i t rest ready
    cases h
    exact ⟨a, .inl rfl, ready, by simp [behind, ready]⟩
  · rename_i ready
    split at h
    · cases h
    · rename_i d t rest sleeping
      split at h
      · rename_i reached
        simp only [Option.some.injEq, Prod.mk.injEq] at h
        obtain ⟨rfl, rfl⟩ := h
        have sorted := T.sorted
        rw [sleeping] at sorted
        have idle : a.IdleUntil d := by
          refine ⟨ready, fun x hx => ?_⟩
          rcases List.mem_cons.1 (sleeping ▸ hx) with rfl | hx
          · exact Nat.le_refl _
          · exact (List.pairwise_cons.1 sorted).1 x hx
        refine ⟨a.wake d, .inr ⟨d, idle, rfl, reached⟩, ?_, ?_⟩ <;>
          simp [wake, behind, ready, sleeping]
      · cases h

/-- The next turn up to a time comes no later. -/
theorem next_now_le (h : a.next? (some time) = some (turn, b)) (before : a.now ≤ time) :
    b.now ≤ time := by
  unfold next? at h
  split at h
  · cases h
    exact before
  · split at h
    · cases h
    · split at h
      · rename_i reached
        simp only [Option.some.injEq, Prod.mk.injEq] at h
        obtain ⟨rfl, rfl⟩ := h
        exact Nat.max_le.2 ⟨before, by simpa [within] using reached⟩
      · cases h

/-- When no turn is left up to a time, none is due and all deadlines come later. -/
theorem next_eq_none (T : Timed P a) (h : a.next? (some time) = none) :
    a.ready = [] ∧ ∀ x ∈ a.sleeping, time < x.1 := by
  unfold next? at h
  split at h
  · cases h
  · rename_i ready
    refine ⟨ready, fun x hx => ?_⟩
    split at h
    · rename_i none
      simp [none] at hx
    · rename_i d t rest sleeping
      split at h
      · cases h
      · rename_i later
        have first : time < d := by simpa [within] using later
        have sorted := T.sorted
        rw [sleeping] at sorted hx
        rcases List.mem_cons.1 hx with rfl | hx
        · exact first
        · exact Nat.lt_of_lt_of_le first ((List.pairwise_cons.1 sorted).1 x hx)

end IncidentBoard.Agenda
