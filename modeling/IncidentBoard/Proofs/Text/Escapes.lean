import IncidentBoard.Proofs.Text.Form
import Mathlib.Tactic.SplitIfs

/-!
# Escapes

Encoding a text that keeps percent signs does not change what it stands for. A text stands for
itself if no percent sign in it is followed by two hexadecimal digits; a text with such an escape
stands for one with fewer signs below 128, and so for none that it is a part of.

## Main definitions

* `Percent.hasEscape` — whether there is an escape in a text.
* `Percent.decodeOctets_encoded` — what an encoded text stands for.
* `Percent.eq_of_decode_eq` — a part of a text that stands for all of it.
-/

namespace IncidentBoard

namespace Percent

/-- Two hexadecimal digits come first. -/
def hexPair : List Char → Bool
  | a :: b :: _ => (Json.hexDigit? a).isSome && (Json.hexDigit? b).isSome
  | _ => false

/-- A percent sign is followed by two hexadecimal digits somewhere. -/
def hasEscape : List Char → Bool
  | [] => false
  | c :: rest => (c == '%' && hexPair rest) || hasEscape rest

variable {a b c : Char} {cs rest : List Char} {x y : Nat}

theorem decodeOctets_escape (ha : Json.hexDigit? a = some x) (hb : Json.hexDigit? b = some y)
    (rest : List Char) :
    decodeOctets ('%' :: a :: b :: rest) = (x * 16 + y) :: decodeOctets rest := by
  simp only [decodeOctets, ha, hb]

/-- A character that begins no escape stands for itself. -/
theorem decodeOctets_char (plain : c = '%' → hexPair rest = false) :
    decodeOctets (c :: rest) = octetsOf c ++ decodeOctets rest := by
  by_cases percent : c = '%'
  · subst percent
    have short := plain rfl
    match rest with
    | [] => rfl
    | [a] => rfl
    | a :: b :: rest =>
      cases ha : Json.hexDigit? a with
      | none => simp only [decodeOctets, ha]; rfl
      | some x =>
        cases hb : Json.hexDigit? b with
        | none => simp only [decodeOctets, ha, hb]; rfl
        | some y => simp [hexPair, ha, hb] at short
  · exact decodeOctets_cons percent rest

/-- Texts are read escape by escape and, between these, character by character. -/
@[elab_as_elim]
theorem escape_induction {motive : List Char → Prop} (nil : motive [])
    (escape : ∀ a b rest x y, Json.hexDigit? a = some x → Json.hexDigit? b = some y →
      motive rest → motive ('%' :: a :: b :: rest))
    (char : ∀ c rest, (c = '%' → hexPair rest = false) → motive rest → motive (c :: rest)) :
    ∀ cs, motive cs := by
  intro cs
  induction cs using decodeOctets.induct with
  | case1 => exact nil
  | case2 a b rest x y hb ha ih => exact escape a b rest x y ha hb ih
  | case3 a b rest no ih =>
    refine char _ _ (fun _ => ?_) ih
    cases ha : Json.hexDigit? a <;> cases hb : Json.hexDigit? b <;> simp [hexPair, ha, hb]
    exact no _ _ ha hb
  | case4 c rest no ih =>
    refine char _ _ (fun percent => ?_) ih
    match rest with
    | [] => rfl
    | [a] => rfl
    | a :: b :: rest => exact (no a b rest percent rfl).elim

theorem decodeOctets_of_not_hasEscape (plain : hasEscape cs = false) :
    decodeOctets cs = cs.flatMap octetsOf := by
  induction cs with
  | nil => rfl
  | cons c rest ih =>
    simp only [hasEscape, Bool.or_eq_false_iff, Bool.and_eq_false_imp, beq_iff_eq] at plain
    rw [decodeOctets_char plain.1, ih plain.2, List.flatMap_cons]

/-- A text without an escape stands for itself. -/
theorem decode_of_not_hasEscape {s : String} (plain : hasEscape s.toList = false) :
    decode s = s := by
  rw [decode, decodeOctets_of_not_hasEscape plain, Octets.utf8?_flatMap]
  exact String.ofList_toList

/-! ## Encoded texts -/

/-- How a character is encoded. -/
def encodeChar (keep : Char → Bool) (c : Char) : List Char :=
  if keep c then [c] else (octetsOf c).flatMap octet

theorem toList_encode (keep : Char → Bool) (s : String) :
    (encode keep s).toList = s.toList.flatMap (encodeChar keep) := String.toList_ofList

section Kept

variable {keep : Char → Bool}

theorem exists_encodeChar (dropped : keep c = false) :
    ∃ rest, encodeChar keep c = '%' :: rest := by
  obtain ⟨first, later, octets⟩ : ∃ first later, octetsOf c = first :: later := by
    rcases octetsOf_cases c with ⟨-, h⟩ | ⟨-, h⟩ | ⟨-, h⟩ | ⟨-, h⟩ <;> exact ⟨_, _, h⟩
  rw [encodeChar, dropped, octets]
  exact ⟨_, rfl⟩

/-- Two digits come first in an encoded text only if they are in the text. -/
theorem hexPair_of_encoded (digits : hexPair (cs.flatMap (encodeChar keep)) = true) :
    hexPair cs = true := by
  have noDigit : Json.hexDigit? '%' = none := by decide
  cases cs with
  | nil => exact digits
  | cons a rest =>
    cases ha : keep a with
    | false =>
      obtain ⟨tail, escaped⟩ := exists_encodeChar ha
      rw [List.flatMap_cons, escaped] at digits
      cases h : tail ++ rest.flatMap (encodeChar keep) <;> simp [h, hexPair, noDigit] at digits
    | true =>
      rw [List.flatMap_cons, encodeChar, if_pos ha] at digits
      cases rest with
      | nil => exact digits
      | cons b rest =>
        cases hb : keep b with
        | false =>
          obtain ⟨tail, escaped⟩ := exists_encodeChar hb
          simp [List.flatMap_cons, escaped, hexPair, noDigit] at digits
        | true =>
          rw [List.flatMap_cons, encodeChar, if_pos hb] at digits
          exact digits

/-- Encoding that keeps percent signs and digits does not change what a text stands for. -/
theorem decodeOctets_encoded (percent : keep '%' = true)
    (digits : ∀ c, (Json.hexDigit? c).isSome = true → keep c = true) (cs : List Char) :
    decodeOctets (cs.flatMap (encodeChar keep)) = decodeOctets cs := by
  have kept {c : Char} (h : keep c = true) : encodeChar keep c = [c] := if_pos h
  induction cs using escape_induction with
  | nil => rfl
  | escape a b rest x y ha hb ih =>
    simp only [List.flatMap_cons, kept percent, kept (digits a (by simp [ha])),
      kept (digits b (by simp [hb])), List.singleton_append]
    rw [decodeOctets_escape ha hb, decodeOctets_escape ha hb, ih]
  | char c rest plain ih =>
    rw [List.flatMap_cons, decodeOctets_char plain, ← ih]
    cases h : keep c with
    | true =>
      rw [kept h, List.singleton_append, decodeOctets_char]
      exact fun same => Bool.eq_false_iff.2 (mt hexPair_of_encoded (by simp [plain same]))
    | false =>
      rw [encodeChar, h, if_neg Bool.false_ne_true]
      exact decodeOctets_flatMap (fun n hn => octetsOf_lt hn) _

end Kept

/-! ## Signs below 128 -/

/-- How many characters are below 128. -/
def lowChars (cs : List Char) : Nat := cs.countP fun c => decide (c.toNat < 0x80)

def lowOctets (ns : List Nat) : Nat := ns.countP fun n => decide (n < 0x80)

@[simp] theorem lowChars_cons (c : Char) (cs : List Char) :
    lowChars (c :: cs) = lowChars cs + if c.toNat < 0x80 then 1 else 0 := by
  simp [lowChars, List.countP_cons]

@[simp] theorem lowOctets_cons (n : Nat) (ns : List Nat) :
    lowOctets (n :: ns) = lowOctets ns + if n < 0x80 then 1 else 0 := by
  simp [lowOctets, List.countP_cons]

@[simp] theorem lowOctets_nil : lowOctets [] = 0 := rfl

theorem lowOctets_octetsOf_append (c : Char) (ns : List Nat) :
    lowOctets (octetsOf c ++ ns) = lowOctets ns + if c.toNat < 0x80 then 1 else 0 := by
  have large (n k : Nat) (h : 0x80 ≤ n) : ¬n + k < 0x80 := by omega
  rcases octetsOf_cases c with ⟨range, h⟩ | ⟨range, h⟩ | ⟨range, h⟩ | ⟨range, h⟩
  · rw [h, List.singleton_append, lowOctets_cons]
  all_goals
    have high : ¬c.toNat < 0x80 := by omega
    simp [h, large, high]

theorem toNat_lt_of_hexDigit? (digit : Json.hexDigit? c = some x) : c.toNat < 0x80 := by
  have below {d : Char} (le : c ≤ d) : c.toNat ≤ d.toNat := le
  unfold Json.hexDigit? at digit
  split_ifs at digit with decimal small large
  · exact Nat.lt_of_le_of_lt (below decimal.2) (by decide)
  · exact Nat.lt_of_le_of_lt (below small.2) (by decide)
  · exact Nat.lt_of_le_of_lt (below large.2) (by decide)

/-- An escape takes three characters and stands for one octet. -/
theorem lowOctets_decodeOctets (cs : List Char) :
    lowOctets (decodeOctets cs) + (if hasEscape cs then 1 else 0) ≤ lowChars cs := by
  induction cs using escape_induction with
  | nil => decide
  | escape a b rest x y ha hb ih =>
    have percent : '%'.toNat < 0x80 := by decide
    rw [decodeOctets_escape ha hb]
    simp only [lowChars_cons, lowOctets_cons, toNat_lt_of_hexDigit? ha,
      toNat_lt_of_hexDigit? hb, percent, if_true]
    split <;> split <;> omega
  | char c rest plain ih =>
    have same : hasEscape (c :: rest) = hasEscape rest := by
      by_cases percent : c = '%'
      · simp [hasEscape, plain percent]
      · simp [hasEscape, percent]
    rw [decodeOctets_char plain, lowOctets_octetsOf_append, lowChars_cons, same]
    omega

theorem not_low_ofNat {n : Nat} (valid : n.isValidChar) (high : 0x80 ≤ n) :
    ¬(Char.ofNat n).toNat < 0x80 := by
  have code : (Char.ofNat n).toNat = n := by
    rw [Char.ofNat, dif_pos valid]
    rfl
  rwa [code, Nat.not_lt]

theorem not_low_charOfCode {n : Nat} (high : 0x80 ≤ n) (range : n < 0x110000) :
    ¬(Text.charOfCode n).toNat < 0x80 := by
  unfold Text.charOfCode
  split
  · decide
  · rename_i whole
    simp only [Text.isHalf, Bool.and_eq_true, decide_eq_true_eq] at whole
    exact not_low_ofNat (by unfold Nat.isValidChar; omega) high

/-- Octets above 127 are read as characters above 127. -/
theorem lowChars_utf8? {ns : List Nat} (read : Octets.utf8? ns = some cs) :
    lowChars cs ≤ lowOctets ns := by
  have tailRange {b : Nat} (tail : ¬(!Octets.isTail b) = true) :
      Octets.tailBits b < 0x40 := by
    simp [Octets.isTail] at tail
    unfold Octets.tailBits
    omega
  fun_induction Octets.utf8? ns generalizing cs with
  | case1 =>
    cases read
    decide
  | case2 a rest low ih =>
    obtain ⟨later, readLater, rfl⟩ := Option.map_eq_some_iff.1 read
    have bound := ih readLater
    rw [lowChars_cons, lowOctets_cons, if_pos low]
    split <;> omega
  | case5 a large b rest tail two ih =>
    obtain ⟨later, readLater, rfl⟩ := Option.map_eq_some_iff.1 read
    have bound := ih readLater
    have bits := tailRange tail
    rw [lowChars_cons, if_neg (not_low_ofNat (.inl (by omega)) (by omega))]
    simp only [lowOctets_cons]
    omega
  | case9 a large b tail one c rest tail' three shortest ih =>
    obtain ⟨later, readLater, rfl⟩ := Option.map_eq_some_iff.1 read
    have bound := ih readLater
    have bits := tailRange tail
    have bits' := tailRange tail'
    have code : 0x80 ≤ (a - 0xE0) * 0x1000 + Octets.tailBits b * 0x40 + Octets.tailBits c := by
      unfold Octets.tailBits
      omega
    rw [lowChars_cons, if_neg (not_low_charOfCode code (by omega))]
    simp only [lowOctets_cons]
    omega
  | case13 a large b tail one c tail' two d rest tail'' four range ih =>
    obtain ⟨later, readLater, rfl⟩ := Option.map_eq_some_iff.1 read
    have bound := ih readLater
    have bits := tailRange tail
    have bits' := tailRange tail'
    have bits'' := tailRange tail''
    have code : 0x10000 ≤ (a - 0xF0) * 0x40000 + Octets.tailBits b * 0x1000 +
        Octets.tailBits c * 0x40 + Octets.tailBits d := by
      unfold Octets.tailBits
      omega
    have last : (a - 0xF0) * 0x40000 + Octets.tailBits b * 0x1000 +
        Octets.tailBits c * 0x40 + Octets.tailBits d < 0x110000 := by
      unfold Octets.tailBits at *
      omega
    rw [lowChars_cons, if_neg (not_low_ofNat (.inr ⟨by omega, last⟩) (by omega))]
    simp only [lowOctets_cons]
    omega
  | _ => simp at read

theorem lowChars_decode (s : String) :
    lowChars (decode s).toList ≤ lowOctets (decodeOctets s.toList) := by
  unfold decode
  split
  · rename_i read
    rw [String.toList_ofList]
    exact lowChars_utf8? read
  · -- Octets that are no text stand for as many characters.
    rw [String.toList_ofList]
    generalize decodeOctets s.toList = ns
    induction ns with
    | nil => decide
    | cons n ns ih =>
      rw [List.map_cons, lowChars_cons, lowOctets_cons]
      by_cases low : n < 0x80
      · rw [if_pos low, if_pos low]
        split <;> omega
      · have replaced : ¬(Char.ofNat 0xFFFD).toNat < 0x80 := by decide
        rw [if_neg low, if_neg low, if_neg replaced]
        exact ih

/-- If a part of a text stands for the text, it has no escape and is all of the text. -/
theorem eq_of_decode_eq {part s : String} (sub : part.toList.Sublist s.toList)
    (whole : decode part = s) : part = s ∧ hasEscape s.toList = false := by
  have plain : hasEscape part.toList = false := by
    rw [Bool.eq_false_iff]
    intro escape
    have fewer := lowOctets_decodeOctets part.toList
    rw [if_pos escape] at fewer
    have low := lowChars_decode part
    rw [whole] at low
    have more : lowChars part.toList ≤ lowChars s.toList := sub.countP_le
    omega
  rw [decode_of_not_hasEscape plain] at whole
  exact ⟨whole, whole ▸ plain⟩

end Percent

end IncidentBoard
