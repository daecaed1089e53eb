import IncidentBoard.ListQuery.Answer
import Mathlib.Data.List.Nodup

/-!
# The order of an answer

The incidents of an answer are sorted twice, by id and then by a column in a direction. The second
sort keeps equals in the order of the first one, in either direction, so the answer is in the order
of the column, and of incidents that are equal in it those with the smaller id come first.

## Main definitions

* `SortColumn.LE` — the order of a column.
* `ListQuery.Precedes`, `ListQuery.InOrder` — the order of a query, without and with ids.
* `ListQuery.matching_pairwise` — an answer is in order.
* `ListQuery.matching_eq_mergeSort` — one sort by column and id gives the same.
-/

namespace IncidentBoard

/-! ## Stable sorting -/

section Stable

variable {α : Type} {le : α → α → Bool} (trans : ∀ a b c, le a b → le b c → le a c)
  (total : ∀ a b, le a b || le b a)

include trans total

/-- A sort keeps elements of which none is greater than another one in their order. -/
theorem filter_mergeSort_of_equal {p : α → Bool} (equal : ∀ a b, p a → p b → le a b)
    (xs : List α) : (xs.mergeSort le).filter p = xs.filter p := by
  have sorted : (xs.filter p).Pairwise fun a b => le a b = true := by
    refine List.pairwise_iff_forall_sublist.2 fun sub => ?_
    have ha := List.of_mem_filter (sub.subset (.head _))
    have hb := List.of_mem_filter (sub.subset (.tail _ (.head _)))
    exact equal _ _ ha hb
  have kept := (List.sublist_mergeSort trans total sorted List.filter_sublist).filter p
  simp only [List.filter_filter, Bool.and_self] at kept
  refine (kept.eq_of_length ?_).symm
  exact ((List.mergeSort_perm xs le).filter p).length_eq.symm

/-- Sorting a sorted list by another order leaves equals of that order sorted as they were. -/
theorem pairwise_mergeSort_of_pairwise {r : α → α → Prop} {xs : List α} (sorted : xs.Pairwise r) :
    (xs.mergeSort le).Pairwise fun a b => le a b ∧ (le b a → r a b) := by
  refine List.pairwise_iff_forall_sublist.2 fun {a b} sub => ?_
  have hab : le a b :=
    List.pairwise_iff_forall_sublist.1 (List.pairwise_mergeSort trans total xs) sub
  refine ⟨hab, fun hba => ?_⟩
  have self : le a a := trans a b a hab hba
  let p (z : α) : Bool := le a z && le z a
  have equal : ∀ x y, p x → p y → le x y := by
    intro x y hx hy
    simp only [p, Bool.and_eq_true] at hx hy
    exact trans x a y hx.2 hy.1
  have pair := sub.filter p
  rw [filter_mergeSort_of_equal trans total equal,
    List.filter_eq_self.2 (by simp [p, hab, hba, self])] at pair
  exact List.pairwise_iff_forall_sublist.1 sorted (pair.trans List.filter_sublist)

end Stable

/-! ## Columns -/

namespace SortColumn

/-- The order of incidents in a column: names in lower case by code point, ended before active,
times as numbers. -/
def LE : SortColumn → Incident → Incident → Prop
  | .name, x, y => Text.lowercase x.name ≤ Text.lowercase y.name
  | .status, x, y => x.isActive ≤ y.isActive
  | .createdAt, x, y => x.createdAt ≤ y.createdAt
  | .endedAt, x, y => x.endedAt ≤ y.endedAt

theorem LE.trans {c : SortColumn} {x y z : Incident} (hxy : c.LE x y) (hyz : c.LE y z) :
    c.LE x z := by
  cases c with
  | name => exact String.le_trans hxy hyz
  | status => exact Bool.le_trans hxy hyz
  | createdAt => exact Int.le_trans hxy hyz
  | endedAt => exact Int.le_trans hxy hyz

theorem LE.total (c : SortColumn) (x y : Incident) : c.LE x y ∨ c.LE y x := by
  cases c with
  | name => exact String.le_total _ _
  | status => exact Bool.le_total _ _
  | createdAt => exact Int.le_total _ _
  | endedAt => exact Int.le_total _ _

end SortColumn

theorem compare_text_isLE (s t : String) : (compare s t).isLE = true ↔ s ≤ t :=
  isLE_compareOfLessAndEq String.le_antisymm String.not_le String.le_total

namespace ListQuery

theorem compareBy_isLE (c : SortColumn) (x y : Incident) :
    (compareBy c x y).isLE = true ↔ c.LE x y := by
  cases c with
  | name => exact compare_text_isLE _ _
  | status => exact (by decide : ∀ a b : Bool, (compare a b).isLE = true ↔ a ≤ b) _ _
  | createdAt => exact Std.isLE_compare
  | endedAt => exact Std.isLE_compare

theorem compareBy_swap (c : SortColumn) (x y : Incident) :
    (compareBy c x y).swap = compareBy c y x := by
  cases c <;> simp only [compareBy] <;> exact Std.OrientedOrd.eq_swap.symm

/-- Whether a query lets an incident come before another one, ids apart. -/
def Precedes (q : ListQuery) (x y : Incident) : Prop :=
  match q.order with
  | .ascending => q.sort.LE x y
  | .descending => q.sort.LE y x

/-- The order of an answer: in the column and direction of the query, equals by id. -/
def InOrder (q : ListQuery) (x y : Incident) : Prop :=
  q.Precedes x y ∧ (q.Precedes y x → x.id ≤ y.id)

theorem byColumn_iff {q : ListQuery} {x y : Incident} :
    q.byColumn x y = true ↔ q.Precedes x y := by
  unfold byColumn Precedes
  cases q.order with
  | ascending => exact compareBy_isLE _ _ _
  | descending => rw [directed, compareBy_swap, compareBy_isLE]

theorem Precedes.trans {q : ListQuery} {x y z : Incident} (hxy : q.Precedes x y)
    (hyz : q.Precedes y z) : q.Precedes x z := by
  unfold Precedes at *
  cases ho : q.order <;> simp only [ho] at hxy hyz ⊢
  · exact hxy.trans hyz
  · exact hyz.trans hxy

theorem Precedes.total (q : ListQuery) (x y : Incident) : q.Precedes x y ∨ q.Precedes y x := by
  unfold Precedes
  cases q.order
  · exact SortColumn.LE.total _ x y
  · exact SortColumn.LE.total _ y x

theorem byId_iff {x y : Incident} : byId x y = true ↔ x.id ≤ y.id := compare_text_isLE _ _

theorem byId_pairwise (xs : List Incident) :
    (xs.mergeSort byId).Pairwise fun x y => x.id ≤ y.id := by
  refine (List.pairwise_mergeSort ?_ ?_ xs).imp byId_iff.1
  · intro x y z hxy hyz
    rw [byId_iff] at *
    exact String.le_trans hxy hyz
  · intro x y
    rw [Bool.or_eq_true, byId_iff, byId_iff]
    exact String.le_total _ _

/-- What a query finds is in its order. -/
theorem matching_pairwise (q : ListQuery) (xs : List Incident) :
    (q.matching xs).Pairwise q.InOrder := by
  refine (pairwise_mergeSort_of_pairwise ?_ ?_ (byId_pairwise _)).imp ?_
  · intro x y z hxy hyz
    rw [byColumn_iff] at *
    exact hxy.trans hyz
  · intro x y
    rw [Bool.or_eq_true, byColumn_iff, byColumn_iff]
    exact Precedes.total q x y
  · intro x y h
    rw [byColumn_iff, byColumn_iff] at h
    exact h

/-- What a query finds are the incidents that it asks for. -/
theorem matching_perm (q : ListQuery) (xs : List Incident) :
    (q.matching xs).Perm (xs.filter q.selects) :=
  (List.mergeSort_perm _ _).trans (List.mergeSort_perm _ _)

/-! ## Sorting once -/

/-- How two incidents compare in an answer: in the column and direction of the query, equals by
id. -/
def compareIn (q : ListQuery) (x y : Incident) : Ordering :=
  (directed q.order (compareBy q.sort x y)).then (compare x.id y.id)

theorem then_isLE (o p : Ordering) :
    (o.then p).isLE = true ↔ o.isLE = true ∧ (o.swap.isLE = true → p.isLE = true) := by
  cases o <;> cases p <;> decide

theorem directed_swap (order : SortOrder) (o : Ordering) :
    (directed order o).swap = directed order o.swap := by
  cases order <;> rfl

theorem compareIn_isLE {q : ListQuery} {x y : Incident} :
    (q.compareIn x y).isLE = true ↔ q.InOrder x y := by
  rw [compareIn, then_isLE, directed_swap, compareBy_swap]
  exact and_congr byColumn_iff (imp_congr byColumn_iff (compare_text_isLE _ _))

theorem InOrder.trans {q : ListQuery} {x y z : Incident} (hxy : q.InOrder x y)
    (hyz : q.InOrder y z) : q.InOrder x z := by
  refine ⟨hxy.1.trans hyz.1, fun hzx => ?_⟩
  exact String.le_trans (hxy.2 (hyz.1.trans hzx)) (hyz.2 (hzx.trans hxy.1))

theorem InOrder.total (q : ListQuery) (x y : Incident) : q.InOrder x y ∨ q.InOrder y x := by
  by_cases hxy : q.Precedes x y
  · by_cases hyx : q.Precedes y x
    · rcases String.le_total x.id y.id with hid | hid
      · exact .inl ⟨hxy, fun _ => hid⟩
      · exact .inr ⟨hyx, fun _ => hid⟩
    · exact .inl ⟨hxy, fun h => absurd h hyx⟩
  · exact .inr ⟨(Precedes.total q x y).resolve_left hxy, fun h => absurd h hxy⟩

/-- Of incidents with ids of their own, sorting by column and id at once finds the same. -/
theorem matching_eq_mergeSort (q : ListQuery) {xs : List Incident}
    (distinct : (xs.map Incident.id).Nodup) :
    q.matching xs = (xs.filter q.selects).mergeSort fun x y => (q.compareIn x y).isLE := by
  have sorted : ((xs.filter q.selects).mergeSort fun x y => (q.compareIn x y).isLE).Pairwise
      q.InOrder := by
    refine (List.pairwise_mergeSort ?_ ?_ _).imp compareIn_isLE.1
    · intro x y z hxy hyz
      rw [compareIn_isLE] at *
      exact hxy.trans hyz
    · intro x y
      rw [Bool.or_eq_true, compareIn_isLE, compareIn_isLE]
      exact InOrder.total q x y
  refine List.Perm.eq_of_pairwise ?_ (q.matching_pairwise xs) sorted
    ((q.matching_perm xs).trans (List.mergeSort_perm _ _).symm)
  intro x y hx hy hxy hyx
  have member {z : Incident} (hz : z ∈ xs.filter q.selects) : z ∈ xs := List.mem_of_mem_filter hz
  exact List.inj_on_of_nodup_map distinct (member ((q.matching_perm xs).subset hx))
    (member ((List.mergeSort_perm _ _).subset hy))
    (String.le_antisymm (hxy.2 hyx.1) (hyx.2 hxy.1))

end ListQuery

end IncidentBoard
