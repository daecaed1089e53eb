import IncidentBoard.Field
import Mathlib.Data.List.TakeWhile

/-!
# Digits

The decimal text of a whole number reads back as the number, also as a field that is given as
text. Numbers of more than 4300 digits are not read.

## Main definitions

* `Json.Short` — the whole numbers that are read back.
* `Json.digitsValue_toDigits` — the value of the digits of a number.
* `Field.wholeOfText_toString` — the text of a number as a field.
-/

namespace IncidentBoard

namespace Json

/-- A whole number of up to 4300 digits. -/
def Short (n : Int) : Prop := (Nat.toDigits 10 n.natAbs).length ≤ 4300

instance (n : Int) : Decidable (Short n) := inferInstanceAs (Decidable (_ ≤ _))

theorem isDigit_eq (c : Char) : isDigit c = c.isDigit := by
  simp only [isDigit, Char.isDigit, Char.le_def, ge_iff_le]

theorem isDigit_of_mem_toDigits {n : Nat} {c : Char} (h : c ∈ Nat.toDigits 10 n) :
    isDigit c = true := by
  rw [isDigit_eq]
  exact Nat.isDigit_of_mem_toDigits (by decide) (by decide) h

theorem digitsValue_toDigits (n : Nat) : digitsValue (Nat.toDigits 10 n) = n := by
  calc digitsValue (Nat.toDigits 10 n)
      = Nat.ofDigitChars 10 (Nat.toDigits 10 n) 0 := by
        simp only [digitsValue, Nat.ofDigitChars_eq_foldl, Nat.mul_comm 10]
    _ = n := Nat.ofDigitChars_ten_toDigits

/-- The digits of a number start with a zero only for zero itself. -/
theorem head?_toDigits_ne {n : Nat} (h : n ≠ 0) : (Nat.toDigits 10 n).head? ≠ some '0' := by
  induction n using Nat.base_induction 10 (by decide) with
  | single m small => simp [Nat.toDigits_of_lt_base small, h]
  | digit m k small positive ih =>
    have first := ih (by omega)
    rw [← Nat.toDigits_append_toDigits (by decide) positive small, List.head?_append]
    cases some : (Nat.toDigits 10 m).head? with
    | none => exact absurd (List.head?_eq_none_iff.1 some) Nat.toDigits_ne_nil
    | some c => simpa [some] using first

theorem toList_toString_int (n : Int) :
    (toString n).toList = (if n < 0 then ['-'] else []) ++ Nat.toDigits 10 n.natAbs := by
  rw [Int.toString_eq_repr, Int.repr_eq_if]
  by_cases positive : 0 ≤ n
  · have size : n.toNat = n.natAbs := by omega
    have sign : ¬ n < 0 := by omega
    simp [positive, sign, size]
  · have size : (-n).toNat = n.natAbs := by omega
    have sign : n < 0 := by omega
    simp [positive, sign, size]

theorem toNat_of_isDigit {c : Char} (h : isDigit c = true) : 48 ≤ c.toNat ∧ c.toNat ≤ 57 := by
  simpa [isDigit, Char.le_def, UInt32.le_iff_toNat_le] using h

end Json

namespace Field

/-! ## Fields -/

theorem groupedDigits?_of_digits {ds : List Char} (nonempty : ds ≠ [])
    (digits : ∀ c ∈ ds, Json.isDigit c = true) : groupedDigits? ds = some ds := by
  induction ds with
  | nil => exact absurd rfl nonempty
  | cons c rest ih =>
    have first := digits c (.head _)
    cases rest with
    | nil => simp [groupedDigits?, first]
    | cons d later =>
      have second : d ≠ '_' := by
        rintro rfl
        exact absurd (digits '_' (.tail _ (.head _))) (by decide)
      have tail := ih (List.cons_ne_nil _ _) fun x hx => digits x (.tail _ hx)
      simp [groupedDigits?, first, second, tail]

theorem dropZeroFraction_of_digits {ds : List Char} (digits : ∀ c ∈ ds, Json.isDigit c = true) :
    dropZeroFraction ds = ds := by
  have point : ∀ c ∈ ds, (c != '.') = true := by
    intro c hc
    rw [bne_iff_ne]
    rintro rfl
    exact absurd (digits '.' hc) (by decide)
  simp [dropZeroFraction, List.dropWhile_eq_nil_iff.2 point]

theorem trimChars_of_not {drop : Char → Bool} {cs : List Char} (kept : ∀ c ∈ cs, drop c = false) :
    Text.trimChars drop cs = cs := by
  have same : ∀ {xs : List Char}, (∀ c ∈ xs, drop c = false) → xs.dropWhile drop = xs := by
    intro xs kept
    cases xs with
    | nil => rfl
    | cons c rest => rw [List.dropWhile_cons, if_neg (by simp [kept c (.head _)])]
  rw [Text.trimChars, same kept, same fun c hc => kept c (List.mem_reverse.1 hc),
    List.reverse_reverse]

/-- The text of a whole number is read as the number. -/
theorem wholeOfText_toString {n : Nat} (short : Json.Short n) :
    wholeOfText (toString n) = .ok (n : Int) := by
  have digits : ∀ c ∈ Nat.toDigits 10 n, Json.isDigit c = true :=
    fun c hc => Json.isDigit_of_mem_toDigits hc
  have trimmed : Text.trimChars Text.isWhite (toString n).toList = Nat.toDigits 10 n := by
    rw [Nat.toString_eq_repr, Nat.toList_repr]
    refine trimChars_of_not fun c hc => ?_
    have range := Json.toNat_of_isDigit (digits c hc)
    simp [Text.isWhite]
    omega
  have read : groupedDigits? (dropZeroFraction (Nat.toDigits 10 n)) = some (Nat.toDigits 10 n) := by
    rw [dropZeroFraction_of_digits digits, groupedDigits?_of_digits Nat.toDigits_ne_nil digits]
  have limit : ¬ 4300 < (Nat.toDigits 10 n).length := Nat.not_lt.2 short
  unfold wholeOfText
  rw [trimmed]
  split
  rename_i negative body unsigned
  split at unsigned
  · rename_i r first
    exact absurd (digits '-' (first ▸ .head _)) (by decide)
  · rename_i r first
    exact absurd (digits '+' (first ▸ .head _)) (by decide)
  · cases unsigned
    simp [read, limit, Json.digitsValue_toDigits]

end Field

end IncidentBoard
