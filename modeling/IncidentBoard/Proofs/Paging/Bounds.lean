import IncidentBoard.Paging
import Mathlib.Data.Nat.Log

/-!
# Bounds of a page

A count below the bound of mantissas has a finite quotient by every size of pages, so the bounds of
a page are defined for it.

## Main definitions

* `Binary64.isFinite_ofRatio` — quotients of small numerators are finite.
* `Paging.bounds_of_lt` — the first and the last item of a page.
-/

namespace IncidentBoard

namespace Binary64

/-- The power of two of a quotient is not positive when the numerator is below the bound. -/
theorem ratioExponent_le {num : Nat} (den : Nat) (pos : num ≠ 0) (small : num < mantissaBound) :
    ratioExponent num den ≤ 0 := by
  have bits : num.log2 < 53 := (Nat.log2_lt pos).2 (by rwa [mantissaBound, Nat.pow_eq] at small)
  have guess : (num.log2 : Int) - (den.log2 : Int) - 52 ≤ 0 := by omega
  unfold ratioExponent
  refine Int.max_le.2 ⟨by decide, ?_⟩
  split
  · exact Int.le_trans (Int.sub_le_self _ (by decide)) guess
  · exact guess

theorem isFinite_ofRatio (negative : Bool) {num : Nat} (den : Nat) (small : num < mantissaBound) :
    (ofRatio negative num den).isFinite = true := by
  unfold ofRatio
  split
  · rfl
  · rename_i nonzero
    have least := ratioExponent_le den (fun h => nonzero (.inl h)) small
    -- each number is made opaque as it appears, or the kernel computes with powers of two
    extract_lets e
    change e ≤ 0 at least
    clear_value e
    split
    extract_lets m
    clear_value m
    split
    rename_i mantissa exponent rounded
    have next : exponent ≤ e + 1 := by
      split at rounded <;> cases rounded
      · exact Int.le_refl _
      · omega
    rw [if_neg (by unfold greatestExponent; omega)]
    rfl

theorem exists_ceil? {x : Binary64} (h : x.isFinite = true) : ∃ n, x.ceil? = some n := by
  cases x with
  | finite s m e => exact ⟨_, rfl⟩
  | _ => cases h

end Binary64

namespace Paging

/-- The first and the last item of a page, counted from one. -/
theorem bounds_of_lt {perPage total : Nat} (page : Nat) (perPage_pos : 0 < perPage)
    (total_pos : 0 < total) (small : total < Binary64.mantissaBound) :
    ∃ count, bounds page perPage total =
      .ok ⟨(page * perPage : Nat) + 1, (min total ((page + 1) * perPage) : Nat), count⟩ := by
  have finite := Binary64.isFinite_ofRatio
    (decide ((total : Int) < 0) != decide ((perPage : Int) < 0)) perPage small
  obtain ⟨count, ceil⟩ := Binary64.exists_ceil? finite
  have pages : pageCount perPage total = .ok count := by
    have ne : (perPage : Int) ≠ 0 := by omega
    simp only [pageCount, Binary64.divide?, ne, if_false, Int.natAbs_natCast, ceil]
  have last : min (total : Int) ((page + 1) * perPage) =
      (min total ((page + 1) * perPage) : Nat) := by
    have reach : ((page : Int) + 1) * perPage = ((page + 1) * perPage : Nat) := by
      push_cast
      rfl
    omega
  refine ⟨count, ?_⟩
  rw [bounds, if_neg (by omega), pages, last]
  rfl

end Paging

end IncidentBoard
