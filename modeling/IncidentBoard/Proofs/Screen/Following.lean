import IncidentBoard.Proofs.Answer.Emptiness
import IncidentBoard.Proofs.Screen.Turning
import Mathlib.Data.Rat.Floor

/-!
# The page that follows

The number of pages is computed from a rounded quotient. Up to the bound of mantissas it is the
exact one, so the pager offers the page that follows exactly where that page has items.

## Main definitions

* `Paging.natCast_ceilDiv` — the quotient of naturals, rounded up, among the rationals.
* `Paging.hasNext_iff`, `Pager.press_next_iff` — where there is a page after this one, and where
  the pager leads to it.
* `Pager.next_leads_to_items` — the page that follows is offered exactly where it has items.
-/

namespace IncidentBoard

namespace Paging

variable {perPage total : Nat}

/-- The quotient of naturals that is rounded up is that of rationals, rounded up. -/
theorem natCast_ceilDiv (perPage_pos : 0 < perPage) :
    ((total ⌈/⌉ perPage : Nat) : Int) = ⌈(total : ℚ) / perPage⌉ := by
  have divisor : (0 : ℚ) < perPage := by exact_mod_cast perPage_pos
  have reached : total ≤ perPage * (total ⌈/⌉ perPage) :=
    (ceilDiv_le_iff_le_mul perPage_pos).1 le_rfl
  have below (k : Nat) (inside : k < total ⌈/⌉ perPage) : k * perPage < total :=
    (lt_ceilDiv_iff perPage_pos k).1 inside
  generalize total ⌈/⌉ perPage = count at reached below
  refine (Int.ceil_eq_iff.2 ⟨?_, ?_⟩).symm
  · rw [lt_div_iff₀ divisor]
    cases count with
    | zero =>
      have least : (0 : ℚ) ≤ total := Nat.cast_nonneg total
      push_cast
      linarith
    | succ k =>
      have before : (k : ℚ) * perPage < total := by exact_mod_cast below k (Nat.lt_succ_self k)
      push_cast
      linarith
  · rw [div_le_iff₀ divisor, mul_comm]
    exact_mod_cast reached

/-- There is a page after one of those that the items fill, unless the items end on it. -/
theorem hasNext_iff (page : Nat) (perPage_pos : 0 < perPage) :
    hasNext page (total ⌈/⌉ perPage : Nat) = true ↔ (page + 1) * perPage < total := by
  rw [← lt_ceilDiv_iff perPage_pos, hasNext, decide_eq_true_eq]
  omega

end Paging

namespace Screen.Pager

variable {perPage total : Nat}

/-- The pager leads to the page that follows exactly where that page begins before the end. -/
theorem press_next_iff (page : Nat) (perPage_pos : 0 < perPage) (total_pos : 0 < total)
    (counted : Paging.pageCount perPage total = .ok (total ⌈/⌉ perPage : Nat)) :
    Press page perPage total (page + 1) ↔ (page + 1) * perPage < total := by
  rw [press_iff total_pos, ← Paging.lt_ceilDiv_iff perPage_pos]
  constructor
  · rintro ⟨count, counted', -, sides⟩
    obtain rfl := Except.ok.inj (counted.symm.trans counted')
    omega
  · intro inside
    exact ⟨_, counted, by omega, .inr ⟨by push_cast; rfl, by exact_mod_cast inside⟩⟩

/-- Up to the bound of mantissas the number of pages is exact, and the page that follows is offered
exactly where a query has items on it. -/
theorem next_leads_to_items (page : Nat) {perPage total : Nat} (perPage_pos : 1 ≤ perPage)
    (perPage_le : perPage ≤ 2 ^ 53) (total_pos : 1 ≤ total) (total_le : total ≤ 2 ^ 53) :
    (∃ b, Paging.bounds page perPage total = .ok b ∧ b.pages = ⌈(total : ℚ) / perPage⌉ ∧
      (Paging.hasNext page b.pages = true ↔ (page + 1) * perPage < total)) ∧
    (Press page perPage total (page + 1) ↔ (page + 1) * perPage < total) ∧
    ∀ (q : ListQuery) (xs : List Incident), q.page = page → q.perPage = perPage →
      (q.answer xs).total = total →
      (Press page perPage total (page + 1) ↔ q.itemsOn xs (page + 1) ≠ []) := by
  have counted := Paging.pageCount_eq perPage_pos perPage_le total_pos total_le
  have offered := press_next_iff page perPage_pos total_pos counted
  have bounds : Paging.bounds page perPage total =
      .ok ⟨page * perPage + 1, min total ((page + 1) * perPage), (total ⌈/⌉ perPage : Nat)⟩ := by
    rw [Paging.bounds, if_neg (by omega), counted]
    rfl
  refine ⟨⟨_, bounds, Paging.natCast_ceilDiv perPage_pos, Paging.hasNext_iff page perPage_pos⟩,
    offered, ?_⟩
  rintro q xs - rfl found
  have matched : xs.countP (q.Satisfies ·) = total := by
    exact_mod_cast (q.total_answer xs).symm.trans found
  rw [offered, (q.pages_tile xs).nonempty, matched]

/-- One item beyond a page of nearly as many as there are mantissas is on a page that follows; and
behind the second of three pages of one incident each there is the third. -/
theorem next_leads_to_items_of_nearly_full_page :
    let q : ListQuery := { ListQuery.first "t1" 1 (by decide) with page := 1 }
    let xs := ["i1", "i2", "i3"].map fun id => { (default : Incident) with id := id, team := "t1" }
    (1 ≤ 2 ^ 53 - 1 ∧ 2 ^ 53 - 1 ≤ 2 ^ 53 ∧ 1 ≤ 2 ^ 53 ∧
      ∃ b, Paging.bounds (0 : Nat) (2 ^ 53 - 1 : Nat) (2 ^ 53 : Nat) = .ok b ∧
        b.pages = ⌈((2 ^ 53 : Nat) : ℚ) / (2 ^ 53 - 1 : Nat)⌉ ∧ Paging.hasNext 0 b.pages = true) ∧
    (q.answer xs).total = (3 : Nat) ∧ Press 1 1 (3 : Nat) 2 ∧ q.itemsOn xs 2 ≠ [] := by
  intro q xs
  obtain ⟨⟨b, bounds, exact, next⟩, -⟩ := next_leads_to_items 0 (by decide : 1 ≤ 2 ^ 53 - 1)
    (by decide) (by decide : 1 ≤ 2 ^ 53) (by decide)
  have few := next_leads_to_items 1 (by decide : 1 ≤ 1) (by decide) (by decide : 1 ≤ 3) (by decide)
  have found : (q.matching xs).length = 3 :=
    (q.matching_perm xs).length_eq.trans (by decide +kernel)
  have total : (q.answer xs).total = (3 : Nat) := congrArg Nat.cast found
  have offered : Press 1 1 (3 : Nat) 2 := few.2.1.2 (by decide)
  exact ⟨⟨by decide, by decide, by decide, b, bounds, exact, next.2 (by decide)⟩, total, offered,
    (few.2.2 q xs rfl rfl total).1 offered⟩

end Screen.Pager

end IncidentBoard
