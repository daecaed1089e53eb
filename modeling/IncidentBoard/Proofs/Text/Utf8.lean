import IncidentBoard.Text.Percent

/-!
# Octets of texts

The octets of a text are read as the characters of the text.

## Main definitions

* `Percent.octetsOf_cases` — the octets of a character, by their number.
* `Octets.utf8?_flatMap` — the octets of characters are read as the characters.
* `Octets.text?_eq_some_iff` — the octets that are a text.
-/

namespace IncidentBoard

namespace Percent

theorem isValid (c : Char) : c.toNat < 0xD800 ∨ 0xDFFF < c.toNat ∧ c.toNat < 0x110000 :=
  c.valid

/-- The octets of a character of code `v`, one to four of them. -/
theorem octetsOf_cases (c : Char) :
    let v := c.toNat
    v < 0x80 ∧ octetsOf c = [v] ∨
    (0x80 ≤ v ∧ v < 0x800) ∧ octetsOf c = [0xC0 + v / 0x40, 0x80 + v % 0x40] ∨
    (0x800 ≤ v ∧ v < 0x10000) ∧
      octetsOf c = [0xE0 + v / 0x1000, 0x80 + v / 0x40 % 0x40, 0x80 + v % 0x40] ∨
    (0x10000 ≤ v ∧ v < 0x110000) ∧
      octetsOf c = [0xF0 + v / 0x40000, 0x80 + v / 0x1000 % 0x40, 0x80 + v / 0x40 % 0x40,
        0x80 + v % 0x40] := by
  intro v
  have valid : v < 0xD800 ∨ 0xDFFF < v ∧ v < 0x110000 := isValid c
  have code : c.val.toNat = v := rfl
  unfold octetsOf String.utf8EncodeChar
  rw [code]
  by_cases one : v ≤ 0x7F
  · refine .inl ⟨by omega, ?_⟩
    simp [one]
    omega
  · by_cases two : v ≤ 0x7FF
    · refine .inr (.inl ⟨by omega, ?_⟩)
      simp [one, two]
      omega
    · by_cases three : v ≤ 0xFFFF
      · refine .inr (.inr (.inl ⟨by omega, ?_⟩))
        simp [one, two, three]
        omega
      · refine .inr (.inr (.inr ⟨by omega, ?_⟩))
        simp [one, two, three]
        omega

end Percent

namespace Octets

open IncidentBoard.Percent

section Sizes

variable {a b c d : Nat} {rest : List Nat}

theorem utf8?_one (ha : a < 0x80) : utf8? (a :: rest) = (utf8? rest).map (Char.ofNat a :: ·) := by
  rw [utf8?.eq_def]
  simp only [ha, if_true]

theorem utf8?_two (ha : 0xC2 ≤ a ∧ a ≤ 0xDF) (hb : isTail b = true) :
    utf8? (a :: b :: rest) =
      (utf8? rest).map (Char.ofNat ((a - 0xC0) * 0x40 + tailBits b) :: ·) := by
  have large : ¬ a < 0x80 := by omega
  rw [utf8?.eq_def]
  simp only [large, if_false, hb, Bool.not_true, Bool.false_eq_true, ha, and_self, if_true]

theorem utf8?_three (ha : 0xE0 ≤ a ∧ a ≤ 0xEF) (shortest : ¬ (a = 0xE0 ∧ b < 0xA0))
    (hb : isTail b = true) (hc : isTail c = true) :
    utf8? (a :: b :: c :: rest) = (utf8? rest).map
      (Text.charOfCode ((a - 0xE0) * 0x1000 + tailBits b * 0x40 + tailBits c) :: ·) := by
  have large : ¬ a < 0x80 := by omega
  have larger : ¬ (0xC2 ≤ a ∧ a ≤ 0xDF) := by omega
  rw [utf8?.eq_def]
  simp only [large, larger, if_false, hb, hc, Bool.not_true, Bool.false_eq_true, ha, and_self,
    if_true, shortest]

theorem utf8?_four (ha : 0xF0 ≤ a ∧ a ≤ 0xF4)
    (inRange : ¬ ((a = 0xF0 ∧ b < 0x90) ∨ (a = 0xF4 ∧ 0x8F < b))) (hb : isTail b = true)
    (hc : isTail c = true) (hd : isTail d = true) :
    utf8? (a :: b :: c :: d :: rest) = (utf8? rest).map
      (Char.ofNat ((a - 0xF0) * 0x40000 + tailBits b * 0x1000 + tailBits c * 0x40 + tailBits d) ::
        ·) := by
  have large : ¬ a < 0x80 := by omega
  have larger : ¬ (0xC2 ≤ a ∧ a ≤ 0xDF) := by omega
  have largest : ¬ (0xE0 ≤ a ∧ a ≤ 0xEF) := by omega
  rw [utf8?.eq_def]
  simp only [large, larger, largest, if_false, hb, hc, hd, Bool.not_true, Bool.false_eq_true, ha,
    and_self, if_true, inRange]

end Sizes

theorem isTail_add {n : Nat} (h : n < 0x40) : isTail (0x80 + n) = true := by
  simp [isTail]
  omega

/-- The octets of a character are read as the character. -/
theorem utf8?_octetsOf_append (c : Char) (rest : List Nat) :
    utf8? (octetsOf c ++ rest) = (utf8? rest).map (c :: ·) := by
  have valid := isValid c
  have self : Char.ofNat c.toNat = c := Char.ofNat_toNat c
  have whole : Text.charOfCode c.toNat = c := Text.charOfCode_toNat c
  have sizes := octetsOf_cases c
  generalize c.toNat = v at valid self whole sizes
  obtain ⟨range, octets⟩ | ⟨range, octets⟩ | ⟨range, octets⟩ | ⟨range, octets⟩ := sizes
  · rw [octets, List.singleton_append, utf8?_one range, self]
  · have code : (0xC0 + v / 0x40 - 0xC0) * 0x40 + tailBits (0x80 + v % 0x40) = v := by
      unfold tailBits
      omega
    simp only [octets, List.cons_append, List.nil_append]
    rw [utf8?_two (by omega) (isTail_add (by omega)), code, self]
  · have code : (0xE0 + v / 0x1000 - 0xE0) * 0x1000 + tailBits (0x80 + v / 0x40 % 0x40) * 0x40 +
        tailBits (0x80 + v % 0x40) = v := by
      unfold tailBits
      omega
    simp only [octets, List.cons_append, List.nil_append]
    rw [utf8?_three (by omega) (by omega) (isTail_add (by omega)) (isTail_add (by omega)), code,
      whole]
  · have code : (0xF0 + v / 0x40000 - 0xF0) * 0x40000 +
        tailBits (0x80 + v / 0x1000 % 0x40) * 0x1000 +
        tailBits (0x80 + v / 0x40 % 0x40) * 0x40 + tailBits (0x80 + v % 0x40) = v := by
      unfold tailBits
      omega
    simp only [octets, List.cons_append, List.nil_append]
    rw [utf8?_four (by omega) (by omega) (isTail_add (by omega)) (isTail_add (by omega))
      (isTail_add (by omega)), code, self]

/-- The octets of characters are read as the characters. -/
theorem utf8?_flatMap (cs : List Char) : utf8? (cs.flatMap octetsOf) = some cs := by
  induction cs with
  | nil => rfl
  | cons c rest ih => rw [List.flatMap_cons, utf8?_octetsOf_append, ih, Option.map_some]

/-- Octets are the text that is written as them. -/
theorem text?_eq_some_iff {os : List UInt8} {s : String} :
    text? os = some s ↔ s.toList.flatMap String.utf8EncodeChar = os := by
  constructor
  · intro read
    unfold text? at read
    split at read
    · split at read
      · rename_i written
        cases read
        rwa [String.toList_ofList]
      · cases read
    · cases read
  · rintro rfl
    have octets : (s.toList.flatMap String.utf8EncodeChar).map UInt8.toNat =
        s.toList.flatMap octetsOf := by
      rw [List.map_flatMap]
      rfl
    simp only [text?, octets, utf8?_flatMap, if_true, String.ofList_toList]

end Octets

/-- A text that counts as given is not empty, in whatever form it is given. -/
theorem Json.asText?_ne_empty {v : Json} {s : String} (given : v.truthy = true)
    (read : v.asText? = some s) : s ≠ "" := by
  rintro rfl
  cases v with
  | text s =>
    cases read
    cases given
  | loose t =>
    have codes : t.codes = [] := by
      simpa [asText?, LooseText.replaced, Text.ofCodes] using read
    have half := t.half
    rw [codes] at half
    cases half
  | bytes os =>
    cases Octets.text?_eq_some_iff.1 read
    cases given
  | _ => cases read

end IncidentBoard
