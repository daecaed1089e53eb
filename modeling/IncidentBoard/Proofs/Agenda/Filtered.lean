import IncidentBoard.Proofs.Agenda.Timing

/-!
# Agendas without some turns

Some turns are left out of an agenda, the others are told differently. What is posted, put to sleep,
taken or woken is then left out or told differently too, and the clock is the same.

## Main definitions

* `Agenda.filterMap` — the agenda of the turns that are kept.
* `Agenda.filterMap_post`, `Agenda.filterMap_sleep`, `Agenda.filterMap_wake` — it moves along.
-/

namespace IncidentBoard.Agenda

variable {τ υ : Type} {f : τ → Option υ} {a : Agenda τ} {turn : τ} {new : υ}

/-- A sleeping turn, if it is kept. -/
def keep (f : τ → Option υ) (x : Nat × τ) : Option (Nat × υ) := (f x.2).map (x.1, ·)

theorem keep_eq_some {x : Nat × τ} {y : Nat × υ} (kept : keep f x = some y) : y.1 = x.1 := by
  obtain ⟨u, -, rfl⟩ := Option.map_eq_some_iff.1 kept
  rfl

/-- The agenda of the turns that are kept. -/
def filterMap (f : τ → Option υ) (a : Agenda τ) : Agenda υ :=
  ⟨a.now, a.ready.filterMap f, a.sleeping.filterMap (keep f)⟩

theorem filterMap_of_forall {g : τ → Option τ} (all : ∀ t ∈ a.turns, g t = some t) :
    a.filterMap g = a := by
  have ready : a.ready.filterMap g = a.ready := by
    rw [List.filterMap_congr (g := some) fun t ht => all t (List.mem_append_left _ ht)]
    exact List.filterMap_some
  have sleeping : a.sleeping.filterMap (keep g) = a.sleeping := by
    rw [List.filterMap_congr (g := some) fun x hx => ?_, List.filterMap_some]
    rw [keep, all x.2 (List.mem_append_right _ (List.mem_map_of_mem hx))]
    rfl
  rw [filterMap, ready, sleeping]

/-! ## Turns that come -/

theorem filterMap_post (kept : f turn = some new) :
    (a.post turn).filterMap f = (a.filterMap f).post new := by
  simp [filterMap, post, kept]

theorem filterMap_post_of_none (left : f turn = none) :
    (a.post turn).filterMap f = a.filterMap f := by
  simp [filterMap, post, left]

theorem insert_of_lt {d : Nat} {xs : List (Nat × τ)} (later : ∀ x ∈ xs, d < x.1) :
    insert d turn xs = (d, turn) :: xs := by
  cases xs with
  | nil => rfl
  | cons x rest => rw [insert, if_pos (later x (.head _))]

/-- The deadlines of the turns that are kept are among those of all. -/
theorem forall_filterMap {P : Nat → Prop} {xs : List (Nat × τ)} (all : ∀ x ∈ xs, P x.1) :
    ∀ y ∈ xs.filterMap (keep f), P y.1 := by
  intro y member
  obtain ⟨x, hx, kept⟩ := List.mem_filterMap.1 member
  exact keep_eq_some kept ▸ all x hx

theorem filterMap_insert (d : Nat) {xs : List (Nat × τ)}
    (sorted : xs.Pairwise fun x y => x.1 ≤ y.1) (kept : f turn = some new) :
    (insert d turn xs).filterMap (keep f) = insert d new (xs.filterMap (keep f)) := by
  induction xs with
  | nil => simp [insert, keep, kept]
  | cons x rest ih =>
    obtain ⟨first, sorted⟩ := List.pairwise_cons.1 sorted
    rw [insert]
    split
    next before =>
      have later : ∀ y ∈ x :: rest, d < y.1 := by
        intro y member
        rcases List.mem_cons.1 member with rfl | member
        · exact before
        · exact Nat.lt_of_lt_of_le before (first y member)
      rw [insert_of_lt (forall_filterMap later)]
      simp [keep, kept]
    next after =>
      cases told : keep f x with
      | none => rw [List.filterMap_cons_none told, List.filterMap_cons_none told, ih sorted]
      | some y =>
        rw [List.filterMap_cons_some told, List.filterMap_cons_some told, ih sorted, insert,
          if_neg (keep_eq_some told ▸ after)]

theorem filterMap_sleep (ms : Nat) (sorted : a.sleeping.Pairwise fun x y => x.1 ≤ y.1)
    (kept : f turn = some new) : (a.sleep ms turn).filterMap f = (a.filterMap f).sleep ms new := by
  simp only [filterMap, sleep, filterMap_insert _ sorted kept]

theorem filterMap_insert_of_none (d : Nat) (xs : List (Nat × τ)) (left : f turn = none) :
    (insert d turn xs).filterMap (keep f) = xs.filterMap (keep f) := by
  have none : keep f (d, turn) = none := by simp [keep, left]
  induction xs with
  | nil => rw [insert, List.filterMap_cons_none none]
  | cons x rest ih =>
    rw [insert]
    split
    · rw [List.filterMap_cons_none none]
    · rw [List.filterMap_cons, List.filterMap_cons, ih]

theorem filterMap_sleep_of_none (ms : Nat) (left : f turn = none) :
    (a.sleep ms turn).filterMap f = a.filterMap f := by
  simp only [filterMap, sleep, filterMap_insert_of_none _ _ left]

/-! ## Turns that are taken, and time that passes -/

theorem filterMap_behind {rest : List τ} (due : a.ready = turn :: rest) (kept : f turn = some new) :
    (a.filterMap f).ready = new :: rest.filterMap f ∧
      a.behind.filterMap f = (a.filterMap f).behind := by
  simp [filterMap, behind, due, kept]

theorem filterMap_behind_of_none {rest : List τ} (due : a.ready = turn :: rest)
    (left : f turn = none) : a.behind.filterMap f = a.filterMap f := by
  simp [filterMap, behind, due, left]

theorem IdleUntil.filterMap {time : Nat} (idle : a.IdleUntil time) :
    (a.filterMap f).IdleUntil time :=
  ⟨by simp [Agenda.filterMap, idle.ready], forall_filterMap idle.sleeping⟩

/-- The turns that are due by a time. -/
def dueBy (time : Nat) (xs : List (Nat × τ)) : List (Nat × τ) := xs.takeWhile fun x => x.1 ≤ time

theorem dueBy_of_lt {time : Nat} {xs : List (Nat × τ)} (later : ∀ x ∈ xs, time < x.1) :
    dueBy time xs = [] := by
  cases xs with
  | nil => rfl
  | cons x rest =>
    have := later x (.head _)
    exact List.takeWhile_cons_of_neg (by simp; omega)

/-- Of the turns that are kept those are due that are due among all. -/
theorem filterMap_dueBy (time : Nat) {xs : List (Nat × τ)}
    (sorted : xs.Pairwise fun x y => x.1 ≤ y.1) :
    (dueBy time xs).filterMap (keep f) = dueBy time (xs.filterMap (keep f)) ∧
      (xs.drop (dueBy time xs).length).filterMap (keep f) =
        (xs.filterMap (keep f)).drop (dueBy time (xs.filterMap (keep f))).length := by
  induction xs with
  | nil => exact ⟨rfl, rfl⟩
  | cons x rest ih =>
    obtain ⟨first, sorted⟩ := List.pairwise_cons.1 sorted
    obtain ⟨due, left⟩ := ih sorted
    by_cases reached : x.1 ≤ time
    · have now : dueBy time (x :: rest) = x :: dueBy time rest :=
        List.takeWhile_cons_of_pos (by simpa using reached)
      rw [now]
      cases told : keep f x with
      | none =>
        rw [List.filterMap_cons_none told, List.filterMap_cons_none told]
        exact ⟨due, left⟩
      | some y =>
        have same := keep_eq_some told
        have now' : dueBy time (y :: rest.filterMap (keep f)) =
            y :: dueBy time (rest.filterMap (keep f)) :=
          List.takeWhile_cons_of_pos (by simpa [same] using reached)
        rw [List.filterMap_cons_some told, List.filterMap_cons_some told, now']
        exact ⟨congrArg _ due, left⟩
    · have later : ∀ y ∈ x :: rest, time < y.1 := by
        intro y member
        rcases List.mem_cons.1 member with rfl | member
        · exact Nat.lt_of_not_le reached
        · exact Nat.lt_of_lt_of_le (Nat.lt_of_not_le reached) (first y member)
      rw [dueBy_of_lt later, dueBy_of_lt (forall_filterMap later)]
      exact ⟨rfl, rfl⟩

theorem filterMap_wake (time : Nat) (sorted : a.sleeping.Pairwise fun x y => x.1 ≤ y.1) :
    (a.wake time).filterMap f = (a.filterMap f).wake time := by
  obtain ⟨due, left⟩ := filterMap_dueBy (f := f) time sorted
  have woken : ((dueBy time a.sleeping).map (·.2)).filterMap f =
      (dueBy time (a.sleeping.filterMap (keep f))).map (·.2) := by
    rw [← due, List.filterMap_map, List.map_filterMap]
    exact List.filterMap_congr fun x _ => by cases told : f x.2 <;> simp [keep, told]
  change Agenda.mk _ ((a.ready ++ (dueBy time a.sleeping).map (·.2)).filterMap f)
    ((a.sleeping.drop (dueBy time a.sleeping).length).filterMap (keep f)) = _
  rw [List.filterMap_append, woken, left]
  rfl

end IncidentBoard.Agenda
