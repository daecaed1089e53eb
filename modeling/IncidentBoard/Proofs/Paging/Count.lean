import IncidentBoard.Proofs.Paging.Bounds
import Mathlib.Algebra.Order.Floor.Div
import Mathlib.Algebra.Order.Ring.Int
import Mathlib.Tactic.Ring

/-!
# The number of pages

The number of pages is a quotient that is rounded twice: to the nearest binary64 number, and then
up. Up to the bound of mantissas the first rounding does no harm: the two roundings give the
quotient rounded up once.

## Main definitions

* `Binary64.roundHalfEven_close` — a number moves by a half at most when it is rounded.
* `Binary64.normal_ratioExponent` — a mantissa has all its bits.
* `Paging.pageCount_eq`, `Paging.pageCount_le_one` — the number of pages.
-/

namespace IncidentBoard

namespace Binary64

/-! ## Rounding to a natural -/

/-- A number moves by a half at most when it is rounded. -/
theorem roundHalfEven_close {num den : Nat} (den_pos : 0 < den) :
    2 * num ≤ (2 * roundHalfEven num den + 1) * den ∧
      2 * roundHalfEven num den * den ≤ 2 * num + den := by
  have division : num / den * den + num % den = num := Nat.div_add_mod' num den
  have rest : num % den < den := Nat.mod_lt num den_pos
  have choice : roundHalfEven num den = num / den ∧ 2 * (num % den) ≤ den ∨
      roundHalfEven num den = num / den + 1 ∧ den ≤ 2 * (num % den) := by
    unfold roundHalfEven
    grind
  rcases choice with ⟨down, short⟩ | ⟨up, long⟩
  · have doubled : (2 * (num / den) + 1) * den = 2 * (num / den * den) + den := by ring
    rw [down, Nat.mul_assoc]
    omega
  · have doubled : (2 * (num / den + 1) + 1) * den = 2 * (num / den * den) + 3 * den := by ring
    have next : 2 * (num / den + 1) * den = 2 * (num / den * den) + 2 * den := by ring
    rw [up]
    omega

theorem roundHalfEven_le {num den c : Nat} (den_pos : 0 < den) (h : num ≤ c * den) :
    roundHalfEven num den ≤ c := by
  have half : 2 * roundHalfEven num den * den ≤ (2 * c + 1) * den := by
    calc 2 * roundHalfEven num den * den ≤ 2 * num + den := (roundHalfEven_close den_pos).2
      _ ≤ 2 * (c * den) + den := by omega
      _ = (2 * c + 1) * den := by ring
  have := Nat.le_of_mul_le_mul_right half den_pos
  omega

/-! ## The bits of a mantissa -/

theorem scaled_of_nonpos {e : Int} (num den : Nat) (h : e ≤ 0) :
    scaled num den e = (num * 2 ^ (-e).toNat, den) := by
  rcases h.lt_or_eq with negative | rfl
  · rw [scaled, if_neg (by omega)]
    rfl
  · simp [scaled]

/-- The first guess of a power of two is not positive up to the bound, but for the bound itself. -/
theorem guess_nonpos {num den : Nat} (num_pos : 0 < num) (num_le : num ≤ 2 ^ 53)
    (proper : num < 2 ^ 53 ∨ 1 < den) : (num.log2 : Int) - den.log2 - 52 ≤ 0 := by
  rcases proper with small | many
  · have := (Nat.log2_lt num_pos.ne').2 small
    omega
  · have beyond : num < 2 ^ 54 := Nat.lt_of_le_of_lt num_le (by decide)
    have := (Nat.log2_lt num_pos.ne').2 beyond
    have := (Nat.le_log2 (by omega : den ≠ 0)).2 (by omega : 2 ^ 1 ≤ den)
    omega

theorem ratioExponent_nonpos {num den : Nat} (num_pos : 0 < num) (num_le : num ≤ 2 ^ 53)
    (proper : num < 2 ^ 53 ∨ 1 < den) : ratioExponent num den ≤ 0 := by
  have guess := guess_nonpos num_pos num_le proper
  unfold ratioExponent
  refine Int.max_le.2 ⟨by decide, ?_⟩
  split <;> omega

/-- A mantissa has all its bits. -/
theorem normal_ratioExponent {num den : Nat} (num_pos : 0 < num) (den_pos : 0 < den)
    (num_le : num ≤ 2 ^ 53) (den_le : den ≤ 2 ^ 53) (proper : num < 2 ^ 53 ∨ 1 < den) :
    2 ^ 52 * den ≤ num * 2 ^ (-ratioExponent num den).toNat := by
  have guess := guess_nonpos num_pos num_le proper
  have bits : den.log2 < 54 :=
    (Nat.log2_lt den_pos.ne').2 (Nat.lt_of_le_of_lt den_le (by decide : 2 ^ 53 < 2 ^ 54))
  have exponent : ratioExponent num den =
      (if num * 2 ^ (-((num.log2 : Int) - den.log2 - 52)).toNat < den * 2 ^ 52
        then (num.log2 : Int) - den.log2 - 52 - 1 else (num.log2 : Int) - den.log2 - 52) := by
    rw [ratioExponent, scaled_of_nonpos num den guess]
    refine max_eq_right ?_
    unfold leastExponent
    split <;> omega
  rw [exponent]
  split
  next short =>
    have least : 2 ^ num.log2 ≤ num := Nat.log2_self_le num_pos.ne'
    have most : den < 2 ^ (den.log2 + 1) := Nat.lt_log2_self
    calc 2 ^ 52 * den ≤ 2 ^ 52 * 2 ^ (den.log2 + 1) := Nat.mul_le_mul_left _ most.le
      _ = 2 ^ num.log2 * 2 ^ (-((num.log2 : Int) - den.log2 - 52 - 1)).toNat := by
        rw [← Nat.pow_add, ← Nat.pow_add]
        congr 1
        omega
      _ ≤ _ := Nat.mul_le_mul_right _ least
  next long => exact Nat.mul_comm den _ ▸ Nat.le_of_not_lt long

/-! ## Rounding up -/

/-- The quotient of naturals, rounded up, as it is computed from the quotient rounded down. -/
theorem neg_fdiv_neg (n : Nat) {d : Nat} (d_pos : 0 < d) :
    -((-(n : Int)).fdiv d) = ((n ⌈/⌉ d : Nat) : Int) := by
  have divisor : (0 : Int) < d := by exact_mod_cast d_pos
  have least : n ≤ d * (n ⌈/⌉ d) := (ceilDiv_le_iff_le_mul d_pos).1 le_rfl
  rw [Int.fdiv_eq_ediv_of_nonneg _ divisor.le]
  refine le_antisymm (neg_le.1 ((Int.le_ediv_iff_mul_le divisor).2 ?_)) ?_
  · rw [neg_mul, neg_le_neg_iff, mul_comm]
    exact_mod_cast least
  · have most : (-(n : Int) / d) * d ≤ -n := Int.ediv_mul_le _ divisor.ne'
    have nonneg : 0 ≤ -(-(n : Int) / d) :=
      neg_nonneg.2 (nonpos_of_mul_nonpos_left (most.trans (by omega)) divisor)
    obtain ⟨c, quotient⟩ := Int.eq_ofNat_of_zero_le nonneg
    rw [quotient]
    refine Int.ofNat_le.2 ((ceilDiv_le_iff_le_mul d_pos).2 ?_)
    have reached : (n : Int) ≤ d * c := by
      rw [← quotient, mul_neg, mul_comm]
      exact le_neg.1 most
    exact_mod_cast reached

theorem ceil?_finite (m : Nat) {e : Int} (h : e ≤ 0) :
    (finite false m e).ceil? = some ((m ⌈/⌉ 2 ^ (-e).toNat : Nat) : Int) := by
  have ratio : (finite false m e).ratio? = some ((m : Int), 2 ^ (-e).toNat) := by
    rcases h.lt_or_eq with negative | rfl
    · simp only [ratio?, if_neg (Int.not_le.2 negative)]
      rfl
    · simp [ratio?]
  rw [ceil?, ratio, Option.map_some, ← neg_fdiv_neg m (Nat.two_pow_pos _)]

/-- Half the mantissa at the next power of two is the same number. -/
theorem ceil?_finite_next (m : Nat) {e : Int} (h : e ≤ 0) :
    (finite false m (e + 1)).ceil? = (finite false (2 * m) e).ceil? := by
  rcases h.lt_or_eq with negative | rfl
  · rw [ceil?_finite _ h, ceil?_finite _ (by omega)]
    have power : (-e).toNat = (-(e + 1)).toNat + 1 := by omega
    have pos : 0 < 2 ^ (-(e + 1)).toNat := Nat.two_pow_pos _
    rw [power, Nat.pow_succ']
    congr 2
    refine eq_of_forall_ge_iff fun c => ?_
    rw [ceilDiv_le_iff_le_mul pos, ceilDiv_le_iff_le_mul (by omega), Nat.mul_assoc,
      Nat.mul_le_mul_left_iff (by decide)]
  · simp [ceil?, ratio?, Nat.mul_comm]

/-- The number of a quotient has the rounded mantissa, halved where that is the bound. -/
theorem ofRatio_eq (negative : Bool) {num den n d : Nat} (num_pos : 0 < num) (den_pos : 0 < den)
    (quotient : scaled num den (ratioExponent num den) = (n, d)) :
    ∃ mantissa exponent, ofRatio negative num den =
        (if greatestExponent < exponent then infinite negative
          else finite negative mantissa exponent) ∧
      (roundHalfEven n d = 2 * mantissa ∧ exponent = ratioExponent num den + 1 ∨
        roundHalfEven n d = mantissa ∧ exponent = ratioExponent num den) := by
  unfold ofRatio
  rw [if_neg (by omega)]
  generalize ratioExponent num den = least at quotient ⊢
  extract_lets e
  change scaled num den e = (n, d) at quotient
  change ∃ mantissa exponent, _ ∧ (roundHalfEven n d = 2 * mantissa ∧ exponent = e + 1 ∨
    roundHalfEven n d = mantissa ∧ exponent = e)
  clear_value e
  split
  next n' d' same =>
    obtain ⟨rfl, rfl⟩ := Prod.mk.inj (same.symm.trans quotient)
    extract_lets m
    change ∃ mantissa exponent, _ ∧
      (m = 2 * mantissa ∧ exponent = e + 1 ∨ m = mantissa ∧ exponent = e)
    -- the mantissa is made opaque, or the kernel compares it with the bound
    clear_value m
    split
    next mantissa exponent rounded =>
      refine ⟨mantissa, exponent, rfl, ?_⟩
      split at rounded <;> cases rounded
      next carried => exact .inl ⟨carried, rfl⟩
      next => exact .inr ⟨rfl, rfl⟩

/-- A quotient, rounded to a number and then up. -/
theorem ceil?_ofRatio {num den : Nat} (num_pos : 0 < num) (den_pos : 0 < den)
    (num_le : num ≤ 2 ^ 53) (proper : num < 2 ^ 53 ∨ 1 < den) :
    let k := (-ratioExponent num den).toNat
    (ofRatio false num den).ceil? =
      some ((roundHalfEven (num * 2 ^ k) den ⌈/⌉ 2 ^ k : Nat) : Int) := by
  intro k
  have nonpos := ratioExponent_nonpos num_pos num_le proper
  obtain ⟨mantissa, exponent, number, rounded⟩ :=
    ofRatio_eq false num_pos den_pos (scaled_of_nonpos num den nonpos)
  have small : ¬greatestExponent < exponent := by
    unfold greatestExponent
    omega
  rw [number, if_neg small, ← ceil?_finite _ nonpos]
  rcases rounded with ⟨carried, rfl⟩ | ⟨same, rfl⟩
  · rw [carried, ceil?_finite_next _ nonpos]
  · rw [same]

/-- What is rounded to a number first is not rounded up to more. -/
theorem roundHalfEven_ceilDiv_le {num den : Nat} (den_pos : 0 < den) (k : Nat) :
    roundHalfEven (num * 2 ^ k) den ⌈/⌉ 2 ^ k ≤ num ⌈/⌉ den := by
  have reach : num ≤ den * (num ⌈/⌉ den) := (ceilDiv_le_iff_le_mul den_pos).1 le_rfl
  refine (ceilDiv_le_iff_le_mul (Nat.two_pow_pos k)).2 (roundHalfEven_le den_pos ?_)
  calc num * 2 ^ k ≤ den * (num ⌈/⌉ den) * 2 ^ k := Nat.mul_le_mul_right _ reach
    _ = 2 ^ k * (num ⌈/⌉ den) * den := by ring

/-- Where the mantissa has all its bits, it is not rounded up to less either. -/
theorem le_roundHalfEven_ceilDiv {num den k : Nat} (den_pos : 0 < den) (num_le : num ≤ 2 ^ 53)
    (normal : 2 ^ 52 * den ≤ num * 2 ^ k) :
    num ⌈/⌉ den ≤ roundHalfEven (num * 2 ^ k) den ⌈/⌉ 2 ^ k := by
  have power_pos : 0 < 2 ^ k := Nat.two_pow_pos k
  generalize ceil : roundHalfEven (num * 2 ^ k) den ⌈/⌉ 2 ^ k = c
  have rounded : roundHalfEven (num * 2 ^ k) den ≤ 2 ^ k * c :=
    (ceilDiv_le_iff_le_mul power_pos).1 ceil.le
  generalize 2 ^ k = p at *
  refine (ceilDiv_le_iff_le_mul den_pos).2 (Nat.le_of_not_lt fun beyond => ?_)
  obtain ⟨x, rest⟩ := Nat.exists_eq_add_of_lt beyond
  -- what is left above `c` was rounded away
  have left : 2 * p * (x + 1) ≤ den := by
    have half : 2 * (num * p) ≤ (2 * (p * c) + 1) * den :=
      (roundHalfEven_close den_pos).1.trans (Nat.mul_le_mul_right _ (by omega))
    have parts : 2 * (num * p) = 2 * (p * c) * den + 2 * p * (x + 1) := by
      rw [rest]
      ring
    rw [parts, Nat.add_mul] at half
    omega
  -- and a mantissa with all its bits leaves no place for it, but for a half
  have least : x = 0 := by
    have bound : 2 ^ 53 * p * (x + 1) ≤ 2 ^ 53 * p * 1 := by
      calc 2 ^ 53 * p * (x + 1) = 2 ^ 52 * (2 * p * (x + 1)) := by ring
        _ ≤ 2 ^ 52 * den := Nat.mul_le_mul_left _ left
        _ ≤ num * p := normal
        _ ≤ 2 ^ 53 * p * 1 := by
          rw [Nat.mul_one]
          exact Nat.mul_le_mul_right _ num_le
    have := Nat.le_of_mul_le_mul_left bound (Nat.mul_pos (by decide) power_pos)
    omega
  subst least
  have scale : den = 2 * p := by
    have : num * p ≤ 2 ^ 53 * p := Nat.mul_le_mul_right _ num_le
    omega
  have full : 2 ^ 53 ≤ num := by
    refine Nat.le_of_mul_le_mul_right ?_ power_pos
    rw [scale] at normal
    omega
  have odd : num = 2 * (p * c) + 1 := by
    rw [rest, scale]
    ring
  omega

end Binary64

namespace Paging

open Binary64

variable {perPage total : Nat}

theorem pageCount_of_ceil? {count : Int} (perPage_pos : 0 < perPage)
    (ceil : (ofRatio false total perPage).ceil? = some count) :
    pageCount perPage total = .ok count := by
  have divisor : (perPage : Int) ≠ 0 := by omega
  have sign : (decide ((total : Int) < 0) != decide ((perPage : Int) < 0)) = false := by
    rw [decide_eq_false (by omega), decide_eq_false (by omega)]
    rfl
  simp only [pageCount, divide?, divisor, if_false, sign, Int.natAbs_natCast, ceil]

/-- The pages up to the quotient, rounded up, are those that begin before the end. -/
theorem lt_ceilDiv_iff (perPage_pos : 0 < perPage) (k : Nat) :
    k < total ⌈/⌉ perPage ↔ k * perPage < total := by
  rw [← not_le, ceilDiv_le_iff_le_mul perPage_pos, not_le, Nat.mul_comm]

/-- Up to the bound of mantissas the number of pages is the quotient, rounded up. -/
theorem pageCount_eq (perPage_pos : 0 < perPage) (perPage_le : perPage ≤ 2 ^ 53)
    (total_pos : 0 < total) (total_le : total ≤ 2 ^ 53) :
    pageCount perPage total = .ok (total ⌈/⌉ perPage : Nat) := by
  by_cases proper : total < 2 ^ 53 ∨ 1 < perPage
  · refine pageCount_of_ceil? perPage_pos ?_
    have normal := normal_ratioExponent total_pos perPage_pos total_le perPage_le proper
    rw [ceil?_ofRatio total_pos perPage_pos total_le proper]
    have rounded := le_antisymm (roundHalfEven_ceilDiv_le perPage_pos _)
      (le_roundHalfEven_ceilDiv perPage_pos total_le normal)
    exact congrArg (fun n : Nat => some (n : Int)) rounded
  · obtain rfl : total = 2 ^ 53 := by omega
    obtain rfl : perPage = 1 := by omega
    exact pageCount_of_ceil? perPage_pos (by decide +kernel)

/-- What fits on one page has no more. -/
theorem pageCount_le_one (total_pos : 0 < total) (single : total ≤ perPage)
    (total_le : total ≤ 2 ^ 53) : ∃ count, pageCount perPage total = .ok count ∧ count ≤ 1 := by
  have perPage_pos : 0 < perPage := by omega
  refine ⟨_, pageCount_of_ceil? perPage_pos
    (ceil?_ofRatio total_pos perPage_pos total_le (by omega)), ?_⟩
  have most : _ ≤ total ⌈/⌉ perPage :=
    roundHalfEven_ceilDiv_le perPage_pos (-ratioExponent total perPage).toNat
  have one : total ⌈/⌉ perPage ≤ 1 := (ceilDiv_le_iff_le_mul perPage_pos).2 (by omega)
  exact_mod_cast most.trans one

end Paging

end IncidentBoard
