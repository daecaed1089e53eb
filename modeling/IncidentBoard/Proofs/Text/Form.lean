import IncidentBoard.Proofs.Text.Utf8

/-!
# Forms

What is written into a form is read from it: names and values, of any characters, empty ones too.

## Main definitions

* `Percent.readForm` — the names and values of a form.
* `Percent.readForm_formPairs` — those that were written.
-/

namespace IncidentBoard.Percent

/-- The text that a part of a form stands for. -/
def formText (cs : List Char) : String :=
  decode (String.ofList (cs.map fun c => if c = '+' then ' ' else c))

/-- The name and the value of a part of a form, which are parted by the first equals sign. -/
def readPair (cs : List Char) : String × String :=
  (formText (cs.takeWhile (· ≠ '=')), formText ((cs.dropWhile (· ≠ '=')).drop 1))

/-- The names and values of a form; empty parts count for nothing. -/
def readForm (s : String) : List (String × String) :=
  ((s.toList.splitOn '&').filter (· ≠ [])).map readPair

/-! ## Characters -/

/-- How a character is written into a form. -/
def formChars (c : Char) : List Char :=
  if c = ' ' then ['+'] else if isUnreserved c then [c] else (octetsOf c).flatMap octet

theorem toList_form (s : String) : (form s).toList = s.toList.flatMap formChars :=
  String.toList_ofList

theorem octetsOf_lt {c : Char} {n : Nat} (h : n ∈ octetsOf c) : n < 256 := by
  obtain ⟨o, -, rfl⟩ := List.mem_map.1 h
  exact o.toNat_lt

theorem isUnreserved_hexDigit {n : Nat} (h : n < 16) : isUnreserved (hexDigit n) = true := by
  revert n
  decide

theorem mem_octet {n : Nat} (h : n < 256) {c : Char} (member : c ∈ octet n) :
    isUnreserved c = true ∨ c = '%' := by
  simp only [octet, List.mem_cons, List.not_mem_nil, or_false] at member
  rcases member with rfl | rfl | rfl
  · exact .inr rfl
  · exact .inl (isUnreserved_hexDigit (by omega))
  · exact .inl (isUnreserved_hexDigit (by omega))

theorem mem_formChars {c d : Char} (h : d ∈ formChars c) :
    isUnreserved d = true ∨ d = '%' ∨ d = '+' := by
  unfold formChars at h
  split at h
  · exact .inr (.inr (List.mem_singleton.1 h))
  · split at h
    · rename_i kept
      rw [List.mem_singleton.1 h]
      exact .inl kept
    · obtain ⟨n, octets, part⟩ := List.mem_flatMap.1 h
      exact (mem_octet (octetsOf_lt octets) part).imp id .inl

/-- No sign that parts a form is written for a text. -/
theorem not_mem_form (s : String) {c : Char}
    (h : ¬ (isUnreserved c = true ∨ c = '%' ∨ c = '+')) : c ∉ (form s).toList := by
  rw [toList_form]
  intro member
  obtain ⟨d, -, part⟩ := List.mem_flatMap.1 member
  exact h (mem_formChars part)

/-! ## Texts -/

/-- Spaces for plus signs. -/
def unplus (cs : List Char) : List Char := cs.map fun c => if c = '+' then ' ' else c

theorem unplus_of_not_mem {cs : List Char} (h : '+' ∉ cs) : unplus cs = cs := by
  refine List.map_congr_left (fun c hc => ?_) |>.trans (List.map_id cs)
  rw [if_neg]
  · rfl
  · rintro rfl
    exact h hc

theorem decodeOctets_cons {c : Char} (h : c ≠ '%') (rest : List Char) :
    decodeOctets (c :: rest) = octetsOf c ++ decodeOctets rest := by
  rw [decodeOctets]
  simp [h]

theorem hexDigit?_hexDigit {n : Nat} (h : n < 16) : Json.hexDigit? (hexDigit n) = some n := by
  revert n
  decide

theorem decodeOctets_octet {n : Nat} (h : n < 256) (rest : List Char) :
    decodeOctets (octet n ++ rest) = n :: decodeOctets rest := by
  have high : Json.hexDigit? (hexDigit (n / 16)) = some (n / 16) := hexDigit?_hexDigit (by omega)
  have low : Json.hexDigit? (hexDigit (n % 16)) = some (n % 16) := hexDigit?_hexDigit (by omega)
  have value : n / 16 * 16 + n % 16 = n := by omega
  simp only [octet, List.cons_append, List.nil_append, decodeOctets, high, low, value]

theorem decodeOctets_flatMap {ns : List Nat} (h : ∀ n ∈ ns, n < 256) (rest : List Char) :
    decodeOctets (ns.flatMap octet ++ rest) = ns ++ decodeOctets rest := by
  induction ns with
  | nil => rfl
  | cons n later ih =>
    rw [List.flatMap_cons, List.append_assoc, decodeOctets_octet (h n (.head _)),
      ih fun m hm => h m (.tail _ hm), List.cons_append]

/-- A character that is written into a form is read as its octets. -/
theorem decodeOctets_formChars (c : Char) (rest : List Char) :
    decodeOctets (unplus (formChars c) ++ rest) = octetsOf c ++ decodeOctets rest := by
  by_cases space : c = ' '
  · subst space
    exact decodeOctets_cons (by decide) rest
  · by_cases kept : isUnreserved c = true
    · have single : formChars c = [c] := by simp [formChars, space, kept]
      have plus : c ≠ '+' := by
        rintro rfl
        exact absurd kept (by decide)
      have percent : c ≠ '%' := by
        rintro rfl
        exact absurd kept (by decide)
      rw [single, unplus_of_not_mem (by simpa using plus.symm), List.singleton_append,
        decodeOctets_cons percent]
    · have encoded : formChars c = (octetsOf c).flatMap octet := by simp [formChars, space, kept]
      rw [encoded, unplus_of_not_mem, decodeOctets_flatMap fun n hn => octetsOf_lt hn]
      intro member
      obtain ⟨n, octets, part⟩ := List.mem_flatMap.1 member
      exact absurd (mem_octet (octetsOf_lt octets) part) (by decide)

theorem decodeOctets_form (cs : List Char) :
    decodeOctets (unplus (cs.flatMap formChars)) = cs.flatMap octetsOf := by
  induction cs with
  | nil => rfl
  | cons c rest ih =>
    rw [List.flatMap_cons, unplus, List.map_append]
    exact (decodeOctets_formChars c _).trans (by rw [List.flatMap_cons, ← ih, unplus])

/-- A text that was written into a form is read from it. -/
theorem formText_form (s : String) : formText (form s).toList = s := by
  have octets : decodeOctets (unplus (form s).toList) = s.toList.flatMap octetsOf := by
    rw [toList_form, decodeOctets_form]
  unfold formText decode
  rw [String.toList_ofList, ← unplus, octets, Octets.utf8?_flatMap]
  exact String.ofList_toList

/-! ## Pairs -/

/-- The part of a form that a name and a value are written as. -/
def pairPart (p : String × String) : List Char := (form p.1).toList ++ '=' :: (form p.2).toList

theorem readPair_pairPart (p : String × String) : readPair (pairPart p) = p := by
  have before : ∀ c ∈ (form p.1).toList, decide (c ≠ '=') = true := by
    intro c hc
    rw [decide_eq_true_iff]
    rintro rfl
    exact not_mem_form p.1 (by decide) hc
  unfold readPair pairPart
  rw [List.takeWhile_append_of_pos before, List.dropWhile_append_of_pos before]
  simp [formText_form]

theorem not_mem_pairPart (p : String × String) : '&' ∉ pairPart p := by
  have parted : ¬ (isUnreserved '&' = true ∨ '&' = '%' ∨ '&' = '+') := by decide
  simp [pairPart, not_mem_form _ parted]

theorem toList_formPairs (pairs : List (String × String)) :
    (formPairs pairs).toList = ['&'].intercalate (pairs.map pairPart) := by
  have parts : ∀ p : String × String, (form p.1 ++ "=" ++ form p.2).toList = pairPart p := by
    intro p
    simp [pairPart]
  rw [formPairs, String.toList_intercalate, List.map_map]
  exact congrArg _ (List.map_congr_left fun p _ => parts p)

/-- The names and values that were written into a form are read from it. -/
theorem readForm_formPairs (pairs : List (String × String)) :
    readForm (formPairs pairs) = pairs := by
  by_cases some : pairs = []
  · rw [some]
    rfl
  · have apart : ∀ part ∈ pairs.map pairPart, '&' ∉ part := by
      intro part member
      obtain ⟨p, -, rfl⟩ := List.mem_map.1 member
      exact not_mem_pairPart p
    have filled : (pairs.map pairPart).filter (· ≠ []) = pairs.map pairPart := by
      rw [List.filter_eq_self]
      intro part member
      obtain ⟨p, -, rfl⟩ := List.mem_map.1 member
      simp [pairPart]
    rw [readForm, toList_formPairs, List.splitOn_intercalate _ apart (by simp [some]), filled,
      List.map_map]
    calc pairs.map (readPair ∘ pairPart)
        = pairs.map id := List.map_congr_left fun p _ => readPair_pairPart p
      _ = pairs := List.map_id pairs

end IncidentBoard.Percent
