import IncidentBoard.Text.Like
import IncidentBoard.Text.Lowercase
import Mathlib.Data.List.Basic
import Mathlib.Data.List.TakeWhile

/-!
# Patterns of a term

The pattern that holds a term with its special characters escaped matches the texts in which the
term occurs, as a pattern sees them: without regard to the case of ASCII letters, and with two codes
taken for another one. A text ends for a pattern at its first NUL.

## Main definitions

* `Like.tokens_containing` — the parts of such a pattern.
* `Like.isMatch_containing` — the codes that it matches; `Like.isMatch_lower` — the texts.
* `Text.Plain` — ASCII texts without NUL; `Like.isMatch_of_isAscii` — searching among them.
-/

namespace IncidentBoard

namespace Text

/-- An ASCII text without NUL. -/
def Plain (s : String) : Prop := ∀ c ∈ s.toList, isAscii c = true ∧ c ≠ '\x00'

instance : DecidablePred Plain := fun s =>
  decidable_of_iff (s.toList.all fun c => isAscii c && c != '\x00') (by simp [Plain])

theorem Plain.lowercase {s : String} (h : Plain s) :
    lowercase s = String.ofList (s.toList.map Char.toLower) :=
  lowercase_of_ascii (List.all_eq_true.2 fun c hc => (h c hc).1)

/-- What holds of each ASCII capital, and of the characters that are their own lower case, holds of
all characters. -/
theorem forall_of_capitals {P : Char → Prop} (capitals : ∀ n < 91, 65 ≤ n → P (Char.ofNat n))
    (others : ∀ c : Char, c.toLower = c → P c) (c : Char) : P c := by
  by_cases upper : 65 ≤ c.toNat ∧ c.toNat ≤ 90
  · have capital := capitals c.toNat (by omega) upper.1
    rwa [Char.ofNat_toNat] at capital
  · exact others c (dif_neg upper)

theorem toLower_ne_nul {c : Char} (h : c ≠ '\x00') : c.toLower ≠ '\x00' :=
  forall_of_capitals (P := fun c => c ≠ '\x00' → c.toLower ≠ '\x00') (by decide)
    (fun _ same other => same.symm ▸ other) c h

theorem nul_not_mem_toLower {cs : List Char} (free : '\x00' ∉ cs) :
    '\x00' ∉ cs.map Char.toLower := by
  simp only [List.mem_map, not_exists, not_and]
  exact fun c hc => toLower_ne_nul (ne_of_mem_of_not_mem hc free)

end Text

namespace Like

/-! ## What a pattern sees -/

theorem seen_toLower (c : Char) : seen c.toLower = seen c :=
  Text.forall_of_capitals (P := fun c => seen c.toLower = seen c) (by decide)
    (fun _ same => congrArg seen same) c

theorem map_seen_toLower (cs : List Char) : (cs.map Char.toLower).map seen = cs.map seen := by
  rw [List.map_map]
  exact List.map_congr_left fun c _ => seen_toLower c

/-- Of an ASCII character a pattern sees its lower case. -/
theorem seen_of_isAscii {c : Char} (ascii : Text.isAscii c = true) : seen c = c.toLower.toNat := by
  have small : c.toNat < 0x80 := of_decide_eq_true ascii
  have each : ∀ n < 0x80, seen (Char.ofNat n) = (Char.ofNat n).toLower.toNat := by decide
  have own := each c.toNat small
  rwa [Char.ofNat_toNat] at own

theorem takeWhile_ne_eq_self {α : Type} [DecidableEq α] {xs : List α} {x : α} (free : x ∉ xs) :
    xs.takeWhile (· ≠ x) = xs := by
  refine List.takeWhile_eq_self_iff.2 fun y hy => ?_
  simpa using ne_of_mem_of_not_mem hy free

theorem zero_not_mem_codes {cs : List Char} (free : '\x00' ∉ cs) : 0 ∉ cs.map Char.toNat := by
  simp only [List.mem_map, not_exists, not_and]
  intro c member zero
  have nul : c = '\x00' := Char.toNat_inj.1 zero
  exact free (nul ▸ member)

/-! ## The parts of a pattern -/

theorem tokens_plain {c : Char} (h : ¬(c = escape ∨ c = '%' ∨ c = '_')) (rest : List Char) :
    tokens (c :: rest) = (tokens rest).map (.char c :: ·) := by
  obtain ⟨h₁, h₂, h₃⟩ : c ≠ escape ∧ c ≠ '%' ∧ c ≠ '_' := by simpa using h
  rw [tokens.eq_def]
  simp [h₁, h₂, h₃]

theorem tokens_percent (rest : List Char) :
    tokens ('%' :: rest) = (tokens rest).map (.anyText :: ·) := by
  rw [tokens.eq_def]
  simp [escape]

/-- Each escaped character stands for itself. -/
theorem tokens_escaped_append (term rest : List Char) :
    tokens (escaped term ++ rest) = (tokens rest).map (term.map .char ++ ·) := by
  induction term with
  | nil => simp [escaped]
  | cons c term ih =>
    have head : escaped (c :: term) ++ rest =
        (if c = escape ∨ c = '%' ∨ c = '_' then [escape, c] else [c]) ++
          (escaped term ++ rest) := by
      simp [escaped]
    rw [head]
    split
    · simp [tokens, ih, Function.comp_def]
    · rename_i plain
      rw [List.singleton_append, tokens_plain plain, ih]
      simp [Function.comp_def]

theorem tokens_containing (term : List Char) :
    tokens (containing term) = some (.anyText :: (term.map .char ++ [.anyText])) := by
  rw [containing, List.cons_append, tokens_percent, tokens_escaped_append, tokens_percent]
  rfl

/-! ## The texts that match -/

/-- A percent sign stands for what comes before some end of a text. -/
theorem matchTokens_anyText (p : List Token) (text : List Nat) :
    matchTokens (.anyText :: p) text = true ↔ ∃ v, v <:+ text ∧ matchTokens p v = true := by
  induction text with
  | nil => simp [matchTokens]
  | cons c rest ih =>
    rw [matchTokens, Bool.or_eq_true, ih]
    simp only [List.suffix_cons_iff, or_and_right, exists_or, exists_eq_left]

theorem matchTokens_chars (term : List Char) (text : List Nat) :
    matchTokens (term.map .char ++ [.anyText]) text = true ↔
      term.map seen <+: text.map folded := by
  induction term generalizing text with
  | nil =>
    refine iff_of_true ?_ List.nil_prefix
    exact (matchTokens_anyText [] text).2 ⟨[], List.nil_suffix, by simp [matchTokens]⟩
  | cons c term ih =>
    cases text with
    | nil => simp [matchTokens]
    | cons code rest => simp [matchTokens, ih]

/-- The pattern of a term matches the codes among which those of the term occur, as it sees them. -/
theorem isMatch_containing {term : List Char} {text : List Nat} (hterm : '\x00' ∉ term)
    (htext : 0 ∉ text) :
    isMatch (containing term) text = true ↔ term.map seen <:+: text.map folded := by
  have pattern : '\x00' ∉ containing term := by
    simp only [containing, escaped, List.cons_append, List.mem_cons, List.mem_append,
      List.mem_flatMap, not_or]
    refine ⟨by decide, ?_, by simp⟩
    rintro ⟨c, hc, member⟩
    have other : c ≠ '\x00' := ne_of_mem_of_not_mem hc hterm
    split at member <;> simp [escape, other.symm] at member
  rw [isMatch, takeWhile_ne_eq_self pattern, takeWhile_ne_eq_self htext, tokens_containing]
  simp only [matchTokens_anyText, matchTokens_chars, List.infix_iff_prefix_suffix]
  constructor
  · rintro ⟨v, suffix, starts⟩
    exact ⟨_, starts, suffix.map _⟩
  · rintro ⟨w, starts, suffix⟩
    obtain ⟨v, ends, rfl⟩ := List.suffix_map_iff.1 suffix
    exact ⟨v, ends, starts⟩

/-- The pattern of a term and a text in lower case: nothing is lost by that. -/
theorem isMatch_lower {term text : List Char} (hterm : '\x00' ∉ term) (htext : '\x00' ∉ text) :
    isMatch (containing term) ((text.map Char.toLower).map Char.toNat) = true ↔
      term.map seen <:+: text.map seen := by
  have kept := zero_not_mem_codes (Text.nul_not_mem_toLower htext)
  have same : ((text.map Char.toLower).map Char.toNat).map folded = text.map seen :=
    List.map_map.trans (map_seen_toLower text)
  rw [isMatch_containing hterm kept, same]

/-- Of ASCII texts in lower case the pattern matches those that hold the term as it is. -/
theorem isMatch_of_isAscii {term text : List Char}
    (hterm : ∀ c ∈ term, Text.isAscii c = true ∧ c ≠ '\x00')
    (htext : ∀ c ∈ text, Text.isAscii c = true ∧ c ≠ '\x00') :
    isMatch (containing (term.map Char.toLower)) ((text.map Char.toLower).map Char.toNat) = true ↔
      term.map Char.toLower <:+: text.map Char.toLower := by
  have free : '\x00' ∉ term.map Char.toLower :=
    Text.nul_not_mem_toLower fun member => (hterm _ member).2 rfl
  have codes {cs : List Char} (ascii : ∀ c ∈ cs, Text.isAscii c = true ∧ c ≠ '\x00') :
      cs.map seen = (cs.map Char.toLower).map Char.toNat := by
    rw [List.map_map]
    exact List.map_congr_left fun c hc => seen_of_isAscii (ascii c hc).1
  rw [isMatch_lower free fun member => (htext _ member).2 rfl, map_seen_toLower, codes hterm,
    codes htext]
  constructor
  · intro occurs
    obtain ⟨cs, inside, same⟩ := List.infix_map_iff.1 occurs
    have injective : Function.Injective Char.toNat := fun _ _ h => Char.toNat_inj.1 h
    rwa [List.map_injective_iff.2 injective same]
  · exact fun occurs => occurs.map _

end Like

end IncidentBoard
