/-!
# Loose text

Text that holds half of a pair of surrogates without its other half. Such a half is a code but no
character, so no encoding takes the text; it can be handed on all the same.

## Main definitions

* `Text.isHalf`, `Text.charOfCode` — the codes of halves, and the character of a code.
* `Text.ofCodes` — the text of codes.
* `LooseText` — text with such a half; `LooseText.replaced` — with a sign in place of each half.
-/

namespace IncidentBoard

namespace Text

/-- Whether a code is half of a pair. -/
def isHalf (code : Nat) : Bool := 0xD800 ≤ code && code ≤ 0xDFFF

/-- The character of a code; half of a pair is replaced. -/
def charOfCode (code : Nat) : Char := if isHalf code then Char.ofNat 0xFFFD else Char.ofNat code

theorem isHalf_toNat (c : Char) : isHalf c.toNat = false := by
  have valid : c.toNat < 0xD800 ∨ 0xDFFF < c.toNat ∧ c.toNat < 0x110000 := c.valid
  simp only [isHalf, Bool.and_eq_false_iff, decide_eq_false_iff_not]
  omega

@[simp] theorem charOfCode_toNat (c : Char) : charOfCode c.toNat = c := by
  rw [charOfCode, isHalf_toNat, if_neg (by decide), Char.ofNat_toNat]

/-- The text of codes, with a sign in place of each half of a pair. -/
def ofCodes (codes : List Nat) : String := String.ofList (codes.map charOfCode)

@[simp] theorem ofCodes_toNat (s : String) : ofCodes (s.toList.map Char.toNat) = s := by
  simp [ofCodes, Function.comp_def]

end Text

/-- Text with half of a pair in it, by its codes. -/
structure LooseText where
  codes : List Nat
  half : codes.any Text.isHalf = true
  deriving DecidableEq, Repr

/-- The text with a sign in place of each half. -/
def LooseText.replaced (t : LooseText) : String := Text.ofCodes t.codes

end IncidentBoard
