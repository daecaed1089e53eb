import IncidentBoard.Proofs.Text.Like

/-!
# Two notions of lower case

The full maps and the ASCII map give a text the same lower case where each of its characters
outside ASCII is its own. The full maps make no NUL.

## Main definitions

* `Text.lowercase_eq_map` — where the two agree.
* `Text.nul_not_mem_lowercase` — texts without NUL keep free of it.
-/

namespace IncidentBoard.Text

variable {c : Char} {cs before : List Char} {s : String}

/-! ## Where the two agree -/

theorem toLower_of_not_ascii (h : isAscii c = false) : c.toLower = c := by
  have large : 0x80 ≤ c.toNat := by simpa [isAscii] using h
  refine dif_neg fun upper => ?_
  have small : c.toNat ≤ 90 := upper.2
  omega

/-- A character that the full maps treat as the ASCII map does; the capital sigma, whose lower case
depends on what is around it, is none. -/
theorem lower_of_own (own : isAscii c = true ∨ lowerChar c = [c]) :
    c ≠ 'Σ' ∧ lowerChar c = [c.toLower] := by
  have sigma : ¬(isAscii 'Σ' = true ∨ lowerChar 'Σ' = ['Σ']) := by decide
  refine ⟨fun same => sigma (same ▸ own), ?_⟩
  cases ascii : isAscii c with
  | true => simp [lowerChar, ascii]
  | false =>
    rw [toLower_of_not_ascii ascii]
    exact own.resolve_left (by simp [ascii])

theorem lowerAfter_eq_map (own : ∀ c ∈ cs, isAscii c = true ∨ lowerChar c = [c]) :
    lowerAfter before cs = cs.map Char.toLower := by
  induction cs generalizing before with
  | nil => rfl
  | cons c rest ih =>
    obtain ⟨other, lower⟩ := lower_of_own (own c (.head _))
    have later := @ih (c :: before) fun d hd => own d (.tail _ hd)
    simp only [lowerAfter, if_neg other, lower, later]
    rfl

/-- Where each character outside ASCII is its own lower case, only ASCII letters change. -/
theorem lowercase_eq_map (own : ∀ c ∈ s.toList, isAscii c = true ∨ lowerChar c = [c]) :
    (lowercase s).toList = s.toList.map Char.toLower := by
  unfold lowercase
  split
  · exact String.toList_ofList
  · rw [String.toList_ofList, lowerAfter_eq_map own]

/-! ## NUL -/

/-- The runs map to codes of characters, and not to that of NUL. -/
theorem lowerRuns_bounds : ∀ run ∈ lowerRuns,
    0 < (run.1 : Int) + run.2.2.2 ∧ (run.2.1 : Int) + run.2.2.2 < 0xD800 ∨
      0xDFFF < (run.1 : Int) + run.2.2.2 ∧ (run.2.1 : Int) + run.2.2.2 < 0x110000 := by
  decide +kernel

theorem ofNat_ne_nul {n : Nat} (valid : n.isValidChar) (positive : 0 < n) :
    Char.ofNat n ≠ '\x00' := by
  intro same
  have code : (Char.ofNat n).toNat = n := congrArg Char.toNat (dif_pos valid)
  rw [same] at code
  change 0 = n at code
  omega

theorem nul_not_mem_lowerChar (h : c ≠ '\x00') : '\x00' ∉ lowerChar c := by
  unfold lowerChar
  split
  · simpa using (toLower_ne_nul h).symm
  · split
    · decide
    · dsimp only
      split
      · rename_i first last step offset found
        have within := List.find?_some found
        have bounds := lowerRuns_bounds _ (List.mem_of_find?_eq_some found)
        simp only [Bool.and_eq_true, decide_eq_true_eq] at within bounds
        refine fun member => ofNat_ne_nul ?_ ?_ (List.mem_singleton.1 member).symm
        · simp only [Nat.isValidChar]
          omega
        · omega
      · simpa using h.symm

theorem nul_not_mem_lowerAfter (h : '\x00' ∉ cs) : '\x00' ∉ lowerAfter before cs := by
  induction cs generalizing before with
  | nil => simp [lowerAfter]
  | cons c rest ih =>
    obtain ⟨head, tail⟩ := List.ne_and_not_mem_of_not_mem_cons h
    simp only [lowerAfter, List.mem_append, not_or]
    refine ⟨?_, ih tail⟩
    split
    · split <;> decide
    · exact nul_not_mem_lowerChar head.symm

theorem nul_not_mem_lowercase (h : '\x00' ∉ s.toList) : '\x00' ∉ (lowercase s).toList := by
  unfold lowercase
  split
  · rw [String.toList_ofList]
    exact nul_not_mem_toLower h
  · rw [String.toList_ofList]
    exact nul_not_mem_lowerAfter h

end IncidentBoard.Text
