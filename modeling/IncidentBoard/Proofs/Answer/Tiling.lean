import IncidentBoard.Proofs.Answer.Filters
import IncidentBoard.Proofs.Answer.Order
import IncidentBoard.Proofs.Paging.Bounds

/-!
# Pages tile the answer

The pages of a query, one after the other, are the incidents that it asks for in its order: none is
missing, none comes twice. The bounds of a page are the positions of its items.

## Main definitions

* `ListQuery.pages` — the first pages of a query, one after the other.
* `ListQuery.Tiles` — what it means for the pages to tile the answer.
* `ListQuery.pages_tile` — they do.
-/

namespace IncidentBoard

namespace ListQuery

theorem flatMap_slice {α : Type} (perPage n : Nat) (xs : List α) :
    ((List.range n).flatMap fun k => slice k perPage xs) = xs.take (n * perPage) := by
  induction n with
  | zero => simp
  | succ n ih =>
    rw [List.range_succ, List.flatMap_append, ih, Nat.succ_mul, List.take_add]
    simp [slice]

theorem slice_ne_nil {α : Type} {page perPage : Nat} (perPage_pos : 0 < perPage) {xs : List α} :
    slice page perPage xs ≠ [] ↔ page * perPage < xs.length := by
  rw [← List.length_pos_iff]
  simp only [slice, List.length_take, List.length_drop]
  omega

variable (q : ListQuery) (xs : List Incident)

/-- The items of one page. -/
def itemsOn (k : Nat) : List Incident := ({ q with page := k }.answer xs).items

/-- The items of the first pages, one page after the other. -/
def pages (n : Nat) : List Incident := (List.range n).flatMap (q.itemsOn xs)

/-- Counts, contents, order and positions of the pages of a query. -/
structure Tiles : Prop where
  /-- Every page of every size, in every order, has the same total. -/
  total : ∀ page perPage (pos : 0 < perPage) sort order,
    (answer { q with page, perPage, sort, order, perPage_pos := pos } xs).total =
      xs.countP (q.Satisfies ·)
  complete : ∀ n, xs.countP (q.Satisfies ·) ≤ n * q.perPage →
    (q.pages xs n).Perm (xs.filter (q.Satisfies ·))
  sorted : ∀ n, (q.pages xs n).Pairwise q.InOrder
  nonempty : ∀ k, q.itemsOn xs k ≠ [] ↔ k * q.perPage < xs.countP (q.Satisfies ·)
  /-- The bounds of a page are the positions of its items, counted from one. Totals of more than 53
  bits are left out, which may have too large a quotient. -/
  bounds : ∀ k, k * q.perPage < xs.countP (q.Satisfies ·) →
    xs.countP (q.Satisfies ·) < Binary64.mantissaBound →
    ∃ b, Paging.bounds k q.perPage (xs.countP (q.Satisfies ·)) = .ok b ∧
      b.first = (q.pages xs k).length + 1 ∧
      b.last = (q.pages xs k).length + (q.itemsOn xs k).length ∧
      ∀ n, k < n → q.pages xs k ++ q.itemsOn xs k <+: q.pages xs n

theorem length_matching : (q.matching xs).length = xs.countP (q.Satisfies ·) := by
  rw [(q.matching_perm xs).length_eq, filter_selects, List.countP_eq_length_filter]

theorem itemsOn_eq (k : Nat) : q.itemsOn xs k = slice k q.perPage (q.matching xs) := rfl

theorem pages_eq (n : Nat) : q.pages xs n = (q.matching xs).take (n * q.perPage) :=
  flatMap_slice q.perPage n (q.matching xs)

theorem pages_succ (k : Nat) : q.pages xs (k + 1) = q.pages xs k ++ q.itemsOn xs k := by
  simp [pages, List.range_succ]

/-- The pages of a query tile its answer. -/
theorem pages_tile : q.Tiles xs where
  total page perPage pos sort order := by
    let other : ListQuery := { q with page, perPage, sort, order, perPage_pos := pos }
    have counted : (other.matching xs).length = (xs.filter q.selects).length :=
      (other.matching_perm xs).length_eq
    change ((other.matching xs).length : Int) = _
    rw [counted, filter_selects, ← List.countP_eq_length_filter]
  complete n enough := by
    rw [pages_eq, List.take_of_length_le (by rwa [length_matching]), ← filter_selects]
    exact q.matching_perm xs
  sorted n := by
    rw [pages_eq]
    exact (q.matching_pairwise xs).sublist (List.take_sublist _ _)
  nonempty k := by
    rw [itemsOn_eq, slice_ne_nil q.perPage_pos, length_matching]
  bounds k inside small := by
    obtain ⟨count, hb⟩ := Paging.bounds_of_lt k q.perPage_pos (Nat.zero_lt_of_lt inside) small
    refine ⟨_, hb, ?_, ?_, fun n hn => ?_⟩
    · rw [pages_eq, List.length_take, length_matching, Nat.min_eq_left (Nat.le_of_lt inside)]
    · rw [← Int.natCast_add, ← List.length_append, ← pages_succ, pages_eq, List.length_take,
        length_matching, Nat.min_comm]
    · rw [← pages_succ, pages_eq, pages_eq]
      exact List.take_prefix_take_left (Nat.mul_le_mul_right _ hn)

end ListQuery

end IncidentBoard
