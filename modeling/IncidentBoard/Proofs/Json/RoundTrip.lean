import IncidentBoard.Json.Writer
import IncidentBoard.Json.Octets
import IncidentBoard.Proofs.Text.Digits
import IncidentBoard.Proofs.Text.Utf8

/-!
# JSON there and back

The written form of a value is read as the value, from its characters and from its octets. Real
numbers and whole numbers of more than 4300 digits are left out, and so are objects that have a
name twice.

## Main definitions

* `Json.Exact` — the values that are read back.
* `Json.parseChars_write` — from characters.
* `Json.octets`, `Json.ofOctets?_octets` — from octets.
-/

namespace IncidentBoard.Json

mutual

/-- Values that are read back from their written form. -/
def Exact : Json → Prop
  | .null | .bool _ | .text _ => True
  | .int n => Short n
  | .real _ | .loose _ | .bytes _ => False
  | .list xs => ExactItems xs
  | .object fs => (fs.map Prod.fst).Nodup ∧ ExactFields fs

/-- Items all of which are read back. -/
def ExactItems : List Json → Prop
  | [] => True
  | x :: xs => Exact x ∧ ExactItems xs

/-- Fields all of whose values are read back. -/
def ExactFields : List (String × Json) → Prop
  | [] => True
  | (_, v) :: fs => Exact v ∧ ExactFields fs

end

/-! ## Fields -/

theorem put_append_of_not_mem {fs : Fields} {name : String} (v : Json)
    (new : name ∉ fs.map Prod.fst) : Fields.put fs name v = fs ++ [(name, v)] := by
  induction fs with
  | nil => rfl
  | cons f rest ih =>
    simp only [List.map_cons, List.mem_cons, not_or] at new
    simp [Fields.put, Ne.symm new.1, ih new.2]

theorem merge_of_nodup {base extra : Fields} (own : ((base ++ extra).map Prod.fst).Nodup) :
    Fields.merge base extra = base ++ extra := by
  induction extra generalizing base with
  | nil => simp [Fields.merge]
  | cons f rest ih =>
    have new : f.1 ∉ base.map Prod.fst := by
      rw [List.map_append, List.nodup_append] at own
      exact fun member => own.2.2 f.1 member f.1 (.head _) rfl
    have step : Fields.merge base (f :: rest) = Fields.merge (base ++ [f]) rest := by
      simp [Fields.merge, put_append_of_not_mem f.2 new]
    rw [step, ih (by simpa using own), List.append_assoc, List.singleton_append]

/-- Pairs with names of their own are the fields of an object as they are. -/
theorem ofPairs_of_nodup {pairs : Fields} (own : (pairs.map Prod.fst).Nodup) :
    Fields.ofPairs pairs = pairs :=
  merge_of_nodup own

/-! ## Cursors -/

/-- What may follow a value that was written: nothing, or a sign that ends it. -/
def Stops : List Char → Prop
  | [] => True
  | c :: _ => c = ',' ∨ c = ']' ∨ c = '}'

@[simp] theorem skip_mk (cs : List Char) (p n : Nat) : Cursor.skip ⟨cs, p⟩ n = ⟨cs.drop n, p + n⟩ :=
  rfl

theorem skipBlanks_cons {c : Char} (h : Cursor.isBlank c = false) (cs : List Char) (p : Nat) :
    Cursor.skipBlanks ⟨c :: cs, p⟩ = ⟨c :: cs, p⟩ := by
  simp [Cursor.skipBlanks, h]

/-! ## Texts -/

/-- What is written between the quotes of a text. -/
def textBody (cs : List Char) : List Char := cs.flatMap fun c => (writeChar c).toList

theorem writeText_append (s : String) (rest : List Char) :
    (writeText s).toList ++ rest = '"' :: (textBody s.toList ++ '"' :: rest) := by
  have folded : ∀ (cs : List Char) (out : String),
      (cs.foldl (fun out c => out ++ writeChar c) out).toList = out.toList ++ textBody cs := by
    intro cs
    induction cs with
    | nil => simp [textBody]
    | cons c rest ih => simp [ih, textBody]
  rw [writeText, String.foldl_eq_foldl_toList, String.toList_append, folded]
  simp

theorem length_le_textBody (cs : List Char) : cs.length ≤ (textBody cs).length := by
  induction cs with
  | nil => simp
  | cons c rest ih =>
    have some : 0 < (writeChar c).toList.length := by
      unfold writeChar
      split_ifs <;> simp
    simp only [textBody, List.flatMap_cons, List.length_cons, List.length_append] at ih ⊢
    omega

/-- The four digits of a control. -/
def controlDigits (n : Nat) : List Char :=
  List.replicate (4 - (Nat.toDigits 16 n).length) '0' ++ Nat.toDigits 16 n

theorem fourHex?_append {ds : List Char} (four : ds.length = 4) (rest : List Char) :
    fourHex? (ds ++ rest) = fourHex? ds := by
  match ds, four with
  | [_, _, _, _], _ => rfl

theorem fourHex?_controlDigits {n : Nat} (h : n < 0x20) :
    (controlDigits n).length = 4 ∧ fourHex? (controlDigits n) = some n := by
  revert n
  decide

/-- A control is read from its escape. -/
theorem unicodeEscape_control {c : Char} (h : c.toNat < 0x20) {rest : List Char} (more : rest ≠ [])
    (p : Nat) :
    unicodeEscape ⟨controlDigits c.toNat ++ rest, p⟩ = .ok (c.toNat, ⟨rest, p + 4⟩) := by
  obtain ⟨length, digits⟩ := fourHex?_controlDigits h
  have read := (fourHex?_append length rest).trans digits
  have long : ¬ (controlDigits c.toNat ++ rest).length ≤ 4 := by
    have := List.length_pos_iff.2 more
    simp [length]
    omega
  have whole : ¬ (0xD800 ≤ c.toNat ∧ c.toNat < 0xDC00) := by omega
  simp only [unicodeEscape, long, if_false, read, whole, skip_mk]
  rw [List.drop_append_of_le_length (by omega), List.drop_of_length_le (by omega),
    List.nil_append]

/-- A character that was written is read. -/
theorem stringBody_writeChar (start fuel : Nat) (acc : List Nat) (c : Char) {rest : List Char}
    (more : rest ≠ []) (p : Nat) :
    ∃ q, stringBody start (fuel + 1) acc ⟨(writeChar c).toList ++ rest, p⟩ =
      stringBody start fuel (c.toNat :: acc) ⟨rest, q⟩ := by
  by_cases quote : c = '"'
  · subst quote
    exact ⟨p + 2, rfl⟩
  · by_cases slash : c = '\\'
    · subst slash
      exact ⟨p + 2, rfl⟩
    · by_cases control : c.toNat < 0x20
      · have written : (writeChar c).toList ++ rest =
            '\\' :: 'u' :: (controlDigits c.toNat ++ rest) := by
          simp [writeChar, quote, slash, control, controlDigits]
        refine ⟨p + 2 + 4, ?_⟩
        rw [written, stringBody]
        simp only [skip_mk, List.drop_succ_cons, List.drop_zero, unicodeEscape_control control more]
        rfl
      · have written : (writeChar c).toList ++ rest = c :: rest := by
          simp [writeChar, quote, slash, control]
        refine ⟨p + 1, ?_⟩
        rw [written, stringBody.eq_def]
        simp only [skip_mk, List.drop_succ_cons, List.drop_zero, control, if_false]

/-- The characters of a text that was written are read up to its closing quote. -/
theorem stringBody_write (start : Nat) (cs : List Char) {fuel : Nat} (enough : cs.length < fuel)
    (acc : List Nat) (rest : List Char) (p : Nat) :
    ∃ q, stringBody start fuel acc ⟨textBody cs ++ '"' :: rest, p⟩ =
      .ok (acc.reverse ++ cs.map Char.toNat, ⟨rest, q⟩) := by
  induction cs generalizing fuel acc p with
  | nil =>
    obtain ⟨fuel, rfl⟩ : ∃ k, fuel = k + 1 := ⟨fuel - 1, by simp at enough; omega⟩
    exact ⟨p + 1, by simp [stringBody, textBody]⟩
  | cons c later ih =>
    obtain ⟨fuel, rfl⟩ : ∃ k, fuel = k + 1 := ⟨fuel - 1, by simp at enough; omega⟩
    have more : textBody later ++ '"' :: rest ≠ [] := by simp
    rw [textBody, List.flatMap_cons, List.append_assoc, ← textBody]
    obtain ⟨q, first⟩ := stringBody_writeChar start fuel acc c more p
    obtain ⟨r, read⟩ := ih (by simpa using enough) (c.toNat :: acc) q
    exact ⟨r, by rw [first, read]; simp⟩

/-- A text that was written is read, from behind its opening quote. -/
theorem readString_write (s : String) (fuel : Nat) (enough : s.toList.length < fuel)
    (rest : List Char) (p : Nat) :
    ∃ q, readString fuel ⟨textBody s.toList ++ '"' :: rest, p⟩ =
      .ok (s.toList.map Char.toNat, ⟨rest, q⟩) := by
  obtain ⟨q, read⟩ := stringBody_write (p - 1) s.toList enough [] rest p
  refine ⟨q, ?_⟩
  rw [readString, read]
  simp

theorem length_le_writeText (s : String) : s.toList.length + 2 ≤ (writeText s).toList.length := by
  have written := congrArg List.length (writeText_append s [])
  have body := length_le_textBody s.toList
  simp only [List.append_nil, List.length_cons, List.length_append, List.length_nil] at written
  omega

/-! ## Numbers -/

/-- What ends a value is neither a digit nor a point nor the mark of an exponent. -/
theorem Stops.number {rest : List Char} (stops : Stops rest) :
    rest.takeWhile isDigit = [] ∧ fractionOf rest = ([], 0) ∧ exponentOf rest = none := by
  cases rest with
  | nil => exact ⟨rfl, rfl, rfl⟩
  | cons c cs => rcases stops with rfl | rfl | rfl <;> exact ⟨rfl, rfl, rfl⟩

theorem takeWhile_toDigits (n : Nat) {rest : List Char} (stops : Stops rest) :
    (Nat.toDigits 10 n ++ rest).takeWhile isDigit = Nat.toDigits 10 n := by
  rw [List.takeWhile_append_of_pos fun c hc => isDigit_of_mem_toDigits hc, stops.number.1,
    List.append_nil]

theorem head?_of_append_eq_cons {xs ys cs : List Char} {c : Char} (nonempty : xs ≠ [])
    (h : xs ++ ys = c :: cs) : xs.head? = some c := by
  cases xs with
  | nil => exact absurd rfl nonempty
  | cons x rest =>
    rw [List.cons_append, List.cons.injEq] at h
    rw [List.head?_cons, h.1]

/-- A whole number that was written is read. -/
theorem readNumber_write {n : Int} (short : Short n) {rest : List Char} (stops : Stops rest)
    (p : Nat) : ∃ q, readNumber ⟨(toString n).toList ++ rest, p⟩ = .ok (.int n, ⟨rest, q⟩) := by
  let digits := Nat.toDigits 10 n.natAbs
  let sign := if n < 0 then ['-'] else []
  have some : digits ≠ [] := Nat.toDigits_ne_nil
  have limit : ¬ 4300 < digits.length := Nat.not_lt.2 short
  have all : ∀ c ∈ digits, isDigit c = true := fun c hc => isDigit_of_mem_toDigits hc
  obtain ⟨-, point, mark⟩ := stops.number
  refine ⟨p + (sign.length + digits.length), ?_⟩
  rw [toList_toString_int]
  unfold readNumber
  split
  rename_i negative body parted
  have parts : negative = decide (n < 0) ∧ body = digits ++ rest := by
    by_cases h : n < 0
    · simp only [h, if_true] at parted
      cases parted
      exact ⟨by simp [h], rfl⟩
    · simp only [h, if_false, List.nil_append] at parted
      split at parted
      · rename_i r first
        have member := List.mem_of_mem_head? (head?_of_append_eq_cons some first)
        exact absurd (all '-' member) (by decide)
      · cases parted
        exact ⟨by simp [h], rfl⟩
  obtain ⟨rfl, rfl⟩ := parts
  extract_lets signed whole after value
  have wholeEq : whole = digits := by
    simp only [whole]
    split
    · rename_i r first
      have head : digits.head? = .some '0' := head?_of_append_eq_cons some first
      have zero : n.natAbs = 0 := by
        by_contra nonzero
        exact head?_toDigits_ne nonzero head
      simp [digits, zero]
    · exact takeWhile_toDigits _ stops
  have afterEq : after = rest := by
    simp only [after, wholeEq, List.drop_left]
  have valueEq : value = n.natAbs := by
    simp only [value, wholeEq, digits, digitsValue_toDigits]
  have signedEq : signed = sign.length := by
    by_cases h : n < 0 <;> simp [signed, sign, h]
  clear_value signed whole after value
  subst wholeEq afterEq valueEq signedEq
  simp only [some, if_false, point, List.drop_zero, mark, limit, skip_mk]
  have value : (if decide (n < 0) = true then -(n.natAbs : Int) else n.natAbs) = n := by
    by_cases h : n < 0
    · simp only [h, decide_true, if_true]
      omega
    · simp only [h, decide_false, Bool.false_eq_true, if_false]
      omega
  have behind : (sign ++ digits ++ after).drop (sign.length + digits.length) = after := by
    rw [← List.length_append, List.drop_left]
  rw [value]
  exact congrArg (fun cs => Except.ok (int n, (⟨cs, _⟩ : Cursor))) behind

/-! ## Values -/

/-- No word starts like a number. -/
theorem find?_words_toString (n : Int) (rest : List Char) :
    words.find? (fun w => w.1.toList.isPrefixOf ((toString n).toList ++ rest)) = none := by
  have first : ∀ c ∈ Nat.toDigits 10 n.natAbs, isDigit c = true :=
    fun c hc => isDigit_of_mem_toDigits hc
  rw [toList_toString_int]
  cases digits : Nat.toDigits 10 n.natAbs with
  | nil => exact absurd digits Nat.toDigits_ne_nil
  | cons d ds =>
    have range := toNat_of_isDigit (first d (digits ▸ .head _))
    have outside : ∀ c ∈ ['n', 't', 'f', 'N', 'I', '-'], ¬ (48 ≤ c.toNat ∧ c.toNat ≤ 57) := by
      simp
    have letter : ∀ c ∈ ['n', 't', 'f', 'N', 'I', '-'], (c == d) = false := by
      intro c hc
      rw [beq_eq_false_iff_ne]
      rintro rfl
      exact outside c hc range
    simp only [List.forall_mem_cons] at letter
    by_cases h : n < 0
    · simp [words, h, List.isPrefixOf, letter]
    · simp [words, h, List.isPrefixOf, letter]

/-- A whole number that was written starts with a minus sign or a digit. -/
theorem toString_cons (n : Int) :
    ∃ c cs, (toString n).toList = c :: cs ∧ (c = '-' ∨ isDigit c = true) := by
  rw [toList_toString_int]
  by_cases h : n < 0
  · exact ⟨'-', _, by rw [if_pos h]; rfl, .inl rfl⟩
  · rw [if_neg h, List.nil_append]
    cases digits : Nat.toDigits 10 n.natAbs with
    | nil => exact absurd digits Nat.toDigits_ne_nil
    | cons d ds =>
      have member : d ∈ Nat.toDigits 10 n.natAbs := digits ▸ List.mem_cons_self
      exact ⟨d, ds, rfl, .inr (isDigit_of_mem_toDigits member)⟩

/-- The first character of a value that was written is no blank and does not end a list. -/
theorem write_cons {v : Json} (exact : v.Exact) :
    ∃ c cs, (write v).toList = c :: cs ∧ Cursor.isBlank c = false ∧ c ≠ ']' := by
  cases v with
  | null => exact ⟨'n', _, rfl, by decide, by decide⟩
  | bool b => cases b <;> exact ⟨_, _, rfl, by decide, by decide⟩
  | int n =>
    obtain ⟨c, cs, text, first⟩ := toString_cons n
    refine ⟨c, cs, by rw [write, text], ?_⟩
    rcases first with rfl | digit
    · exact ⟨by decide, by decide⟩
    · have outside : ∀ d ∈ [' ', '\t', '\n', '\r', ']'], isDigit d = false := by simp [isDigit]
      have apart : ∀ d ∈ [' ', '\t', '\n', '\r', ']'], c ≠ d := by
        rintro d hd rfl
        rw [outside c hd] at digit
        cases digit
      simp only [List.forall_mem_cons] at apart
      simp [Cursor.isBlank, apart]
  | real _ | loose _ | bytes _ => exact exact.elim
  | text s =>
    have written := writeText_append s []
    rw [List.append_nil] at written
    exact ⟨'"', _, written, by decide, by decide⟩
  | list xs => exact ⟨'[', _, by rw [write, String.toList_append, String.toList_append]; rfl,
      by decide, by decide⟩
  | object fs => exact ⟨'{', _, by rw [write, String.toList_append, String.toList_append]; rfl,
      by decide, by decide⟩

theorem readValue_int {n : Int} (short : Short n) {rest : List Char} (stops : Stops rest)
    (fuel p : Nat) :
    ∃ q, readValue (fuel + 1) ⟨(toString n).toList ++ rest, p⟩ = .ok (.int n, ⟨rest, q⟩) := by
  obtain ⟨q, read⟩ := readNumber_write short stops p
  have none := find?_words_toString n rest
  obtain ⟨c, cs, text, first⟩ := toString_cons n
  rw [text, List.cons_append] at read none ⊢
  refine ⟨q, ?_⟩
  rw [readValue.eq_def]
  dsimp only
  split
  · rename_i h
    cases h
  · rename_i h
    cases h
    exact absurd first (by decide)
  · rename_i h
    cases h
    exact absurd first (by decide)
  · rename_i h
    cases h
    exact absurd first (by decide)
  · rw [none]
    exact read

/-! ## Round trips -/

/-- The items of a list as they are written. -/
def itemsText (xs : List Json) : List Char := (String.intercalate "," (writeItems xs)).toList

theorem itemsText_one (x : Json) : itemsText [x] = (write x).toList := by
  simp [itemsText, writeItems]

theorem itemsText_cons (x y : Json) (ys : List Json) :
    itemsText (x :: y :: ys) = (write x).toList ++ ',' :: itemsText (y :: ys) := by
  simp [itemsText, writeItems, String.intercalate_cons_cons]

theorem toList_write_list (xs : List Json) :
    (write (.list xs)).toList = '[' :: (itemsText xs ++ [']']) := by
  simp [write, itemsText]

/-- The fields of an object as they are written. -/
def fieldsText (fs : List (String × Json)) : List Char :=
  (String.intercalate "," (writeFields fs)).toList

theorem fieldsText_one (name : String) (v : Json) :
    fieldsText [(name, v)] = (writeText name).toList ++ ':' :: (write v).toList := by
  simp [fieldsText, writeFields]

theorem fieldsText_cons (name : String) (v : Json) (g : String × Json) (fs : List (String × Json)) :
    fieldsText ((name, v) :: g :: fs) =
      (writeText name).toList ++ ':' :: ((write v).toList ++ ',' :: fieldsText (g :: fs)) := by
  simp [fieldsText, writeFields, String.intercalate_cons_cons]

theorem toList_write_object (fs : List (String × Json)) :
    (write (.object fs)).toList = '{' :: (fieldsText fs ++ ['}']) := by
  simp [write, fieldsText]

theorem itemsText_head (x : Json) (xs : List Json) (exact : x.Exact) :
    ∃ c cs, itemsText (x :: xs) = c :: cs ∧ Cursor.isBlank c = false ∧ c ≠ ']' := by
  obtain ⟨c, cs, text, plain⟩ := write_cons exact
  cases xs with
  | nil => exact ⟨c, cs, by rw [itemsText_one, text], plain⟩
  | cons y ys =>
    refine ⟨c, cs ++ ',' :: itemsText (y :: ys), ?_, plain⟩
    rw [itemsText_cons, text]
    rfl

theorem fieldsText_head (f : String × Json) (fs : List (String × Json)) :
    ∃ cs, fieldsText (f :: fs) = '"' :: cs := by
  obtain ⟨name, v⟩ := f
  cases fs with
  | nil => exact ⟨_, by rw [fieldsText_one, writeText_append]⟩
  | cons g gs => exact ⟨_, by rw [fieldsText_cons, writeText_append]⟩

/-- A field whose value is read is added to those before it, and what follows it decides whether
the object ends there. -/
theorem readFields_field (fuel : Nat) {acc : Fields} {name : String} {v : Json}
    (enough : name.toList.length < fuel) (exact : v.Exact) (new : name ∉ acc.map Prod.fst)
    {next : List Char}
    (value : ∀ p, ∃ q, readValue fuel ⟨(write v).toList ++ next, p⟩ = .ok (v, ⟨next, q⟩))
    (p : Nat) :
    ∃ q, (∀ rest, next = '}' :: rest →
        readFields (fuel + 1) acc
          ⟨(writeText name).toList ++ ':' :: ((write v).toList ++ next), p⟩ =
          .ok (.object (acc ++ [(name, v)]), ⟨rest, q + 1⟩)) ∧
      ∀ rest, next = ',' :: rest →
        readFields (fuel + 1) acc
          ⟨(writeText name).toList ++ ':' :: ((write v).toList ++ next), p⟩ =
          readFields fuel (acc ++ [(name, v)]) (Cursor.skipBlanks ⟨rest, q + 1⟩) := by
  obtain ⟨c, cs, text, blank, -⟩ := write_cons exact
  obtain ⟨q, named⟩ := readString_write name fuel enough (':' :: ((write v).toList ++ next)) (p + 1)
  obtain ⟨r, read⟩ := value (q + 1)
  refine ⟨r, fun rest ends => ?_, fun rest ends => ?_⟩
  all_goals
    subst ends
    rw [writeText_append, readFields]
    simp only [skip_mk, List.drop_succ_cons, List.drop_zero, named, bind, Except.bind,
      skipBlanks_cons (c := ':') (by decide)]
    rw [text, List.cons_append] at read ⊢
    simp only [skipBlanks_cons blank, read, Text.ofCodes_toNat, put_append_of_not_mem v new]
  · simp [skipBlanks_cons (c := '}') (by decide)]
  · simp [skipBlanks_cons (c := ',') (by decide)]

mutual

/-- A value that was written is read. -/
theorem readValue_write (v : Json) (exact : v.Exact) (fuel : Nat)
    (enough : (write v).toList.length ≤ fuel) (rest : List Char) (stops : Stops rest) (p : Nat) :
    ∃ q, readValue fuel ⟨(write v).toList ++ rest, p⟩ = .ok (v, ⟨rest, q⟩) := by
  obtain ⟨c, cs, text, -, -⟩ := write_cons exact
  obtain ⟨fuel, rfl⟩ : ∃ k, fuel = k + 1 := by
    refine ⟨fuel - 1, ?_⟩
    rw [text, List.length_cons] at enough
    omega
  clear text
  match v with
  | .null => exact ⟨p + 4, rfl⟩
  | .bool true => exact ⟨p + 4, rfl⟩
  | .bool false => exact ⟨p + 5, rfl⟩
  | .int n => exact readValue_int exact stops fuel p
  | .real _ | .loose _ | .bytes _ => exact exact.elim
  | .text s =>
    have short := length_le_writeText s
    rw [write] at enough ⊢
    obtain ⟨q, read⟩ := readString_write s fuel (by omega) rest (p + 1)
    refine ⟨q, ?_⟩
    rw [writeText_append, readValue]
    simp only [skip_mk, List.drop_succ_cons, List.drop_zero, read, bind, Except.bind,
      ofCodes_toNat]
  | .list [] => exact ⟨p + 2, rfl⟩
  | .list (x :: xs) =>
    rw [toList_write_list, List.length_cons, List.length_append, List.length_singleton] at enough
    obtain ⟨c, cs, text, blank, bracket⟩ := itemsText_head x xs exact.1
    obtain ⟨q, read⟩ := readItems_write (x :: xs) (List.cons_ne_nil _ _) exact fuel
      (by omega) [] rest (p + 1)
    refine ⟨q, ?_⟩
    rw [toList_write_list, List.cons_append, List.append_assoc, List.singleton_append, readValue]
    rw [text, List.cons_append] at read ⊢
    simp only [skip_mk, List.drop_succ_cons, List.drop_zero, skipBlanks_cons blank]
    simpa [bracket] using read
  | .object [] => exact ⟨p + 2, rfl⟩
  | .object (f :: fs) =>
    rw [toList_write_object, List.length_cons, List.length_append, List.length_singleton] at enough
    obtain ⟨cs, text⟩ := fieldsText_head f fs
    obtain ⟨q, read⟩ := readFields_write (f :: fs) (List.cons_ne_nil _ _) exact.2 fuel
      (by omega) [] exact.1 rest (p + 1)
    refine ⟨q, ?_⟩
    rw [toList_write_object, List.cons_append, List.append_assoc, List.singleton_append, readValue]
    rw [text, List.cons_append] at read ⊢
    simp only [skip_mk, List.drop_succ_cons, List.drop_zero, skipBlanks_cons (c := '"') (by decide)]
    simpa using read

/-- The items of a list that was written are read up to its end. -/
theorem readItems_write (xs : List Json) (some : xs ≠ []) (exact : ExactItems xs) (fuel : Nat)
    (enough : (itemsText xs).length < fuel) (acc : List Json) (rest : List Char) (p : Nat) :
    ∃ q, readItems fuel acc ⟨itemsText xs ++ ']' :: rest, p⟩ =
      .ok (.list (acc.reverse ++ xs), ⟨rest, q⟩) := by
  obtain ⟨fuel, rfl⟩ : ∃ k, fuel = k + 1 := ⟨fuel - 1, by omega⟩
  match xs with
  | [] => exact absurd rfl some
  | [x] =>
    rw [itemsText_one] at enough ⊢
    obtain ⟨q, read⟩ := readValue_write x exact.1 fuel (by omega) (']' :: rest)
      (.inr (.inl rfl)) p
    refine ⟨q + 1, ?_⟩
    rw [readItems, read]
    simp only [bind, Except.bind, skipBlanks_cons (c := ']') (by decide)]
    simp
  | x :: y :: ys =>
    rw [itemsText_cons, List.length_append, List.length_cons] at enough
    rw [itemsText_cons, List.append_assoc, List.cons_append]
    obtain ⟨c, cs, text, blank, -⟩ := itemsText_head y ys exact.2.1
    obtain ⟨q, read⟩ := readValue_write x exact.1 fuel (by omega)
      (',' :: (itemsText (y :: ys) ++ ']' :: rest)) (.inl rfl) p
    obtain ⟨r, later⟩ := readItems_write (y :: ys) (List.cons_ne_nil _ _) exact.2 fuel
      (by omega) (x :: acc) rest (q + 1)
    refine ⟨r, ?_⟩
    rw [readItems, read]
    simp only [bind, Except.bind, skipBlanks_cons (c := ',') (by decide)]
    rw [text, List.cons_append] at later ⊢
    simp only [skip_mk, List.drop_succ_cons, List.drop_zero, skipBlanks_cons blank, later]
    simp

/-- The fields of an object that was written are read up to its end. -/
theorem readFields_write (fs : List (String × Json)) (some : fs ≠ []) (exact : ExactFields fs)
    (fuel : Nat) (enough : (fieldsText fs).length < fuel) (acc : Fields)
    (own : ((acc ++ fs).map Prod.fst).Nodup) (rest : List Char) (p : Nat) :
    ∃ q, readFields fuel acc ⟨fieldsText fs ++ '}' :: rest, p⟩ =
      .ok (.object (acc ++ fs), ⟨rest, q⟩) := by
  obtain ⟨fuel, rfl⟩ : ∃ k, fuel = k + 1 := ⟨fuel - 1, by omega⟩
  match fs with
  | [] => exact absurd rfl some
  | [(name, v)] =>
    have short := length_le_writeText name
    rw [fieldsText_one, List.length_append, List.length_cons] at enough
    rw [List.map_append, List.nodup_append] at own
    have new : name ∉ acc.map Prod.fst := fun member => own.2.2 name member name (.head _) rfl
    obtain ⟨q, last, -⟩ := readFields_field fuel (by omega) exact.1 new
      (fun p => readValue_write v exact.1 fuel (by omega) ('}' :: rest) (.inr (.inr rfl)) p) p
    refine ⟨q + 1, ?_⟩
    rw [fieldsText_one, List.append_assoc, List.cons_append, last rest rfl]
  | (name, v) :: g :: later =>
    have short := length_le_writeText name
    rw [fieldsText_cons] at enough ⊢
    simp only [List.length_append, List.length_cons] at enough
    have new : name ∉ acc.map Prod.fst := by
      rw [List.map_append, List.nodup_append] at own
      exact fun member => own.2.2 name member name (.head _) rfl
    obtain ⟨q, -, more⟩ := readFields_field fuel (by omega) exact.1 new
      (fun p => readValue_write v exact.1 fuel (by omega)
        (',' :: (fieldsText (g :: later) ++ '}' :: rest)) (.inl rfl) p) p
    obtain ⟨cs, text⟩ := fieldsText_head g later
    obtain ⟨r, read⟩ := readFields_write (g :: later) (List.cons_ne_nil _ _) exact.2 fuel
      (by omega) (acc ++ [(name, v)]) (by simpa using own) rest (q + 1)
    refine ⟨r, ?_⟩
    simp only [List.append_assoc, List.cons_append]
    rw [more _ rfl]
    rw [text, List.cons_append] at read ⊢
    rw [skipBlanks_cons (by decide), read]
    simp

end

/-- The characters of a value that was written are read as the value. -/
theorem parseChars_write {v : Json} (exact : v.Exact) : parseChars (write v).toList = .ok v := by
  obtain ⟨c, cs, text, blank, -⟩ := write_cons exact
  obtain ⟨q, read⟩ := readValue_write v exact (2 * (write v).toList.length + 2) (by omega) []
    trivial 0
  rw [List.append_nil] at read
  rw [parseChars, text, skipBlanks_cons blank, ← text, read]
  rfl

/-! ## Octets -/

/-- The octets of the written form of a value. -/
def octets (v : Json) : List Nat := (write v).toList.flatMap Percent.octetsOf

/-- Two octets of ASCII at the start tell the encoding. -/
theorem encodingOf_object (os : List Nat) :
    Octets.encodingOf (0x7B :: 0x22 :: os) = (.utf8, 0) := by
  match os with
  | [] => rfl
  | [_] => rfl
  | _ :: _ :: _ => rfl

/-- The octets of an object that was written are read as the object. -/
theorem ofOctets?_octets {f : String × Json} {fs : Fields} (exact : (object (f :: fs)).Exact) :
    ofOctets? (octets (.object (f :: fs))) = some (.object (f :: fs)) := by
  obtain ⟨cs, text⟩ := fieldsText_head f fs
  have start : octets (.object (f :: fs)) =
      0x7B :: 0x22 :: (cs ++ ['}']).flatMap Percent.octetsOf := by
    rw [octets, toList_write_object, text]
    rfl
  have utf8 : Octets.encodingOf (octets (.object (f :: fs))) = (.utf8, 0) := by
    rw [start, encodingOf_object]
  have chars : Octets.utf8? (octets (.object (f :: fs))) =
      some (write (.object (f :: fs))).toList :=
    Octets.utf8?_flatMap _
  simp only [ofOctets?, Octets.decode?, utf8, List.drop_zero, chars, parseChars_write exact]

end IncidentBoard.Json
