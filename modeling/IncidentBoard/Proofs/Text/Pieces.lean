import IncidentBoard.Text.Percent
import Mathlib.Data.String.Basic

/-!
# Pieces of texts

A text falls into pieces at the slashes in it. Whether it is split as a text, by positions, or as a
list of characters makes no difference.

## Main definitions

* `splitOn_slash` — the pieces of a text are those of its characters.
* `mem_splitOn_slash` — a piece is a part without a slash.
-/

namespace IncidentBoard

open String

/-- Splitting goes on behind what has been read, of which `l` belongs to pieces that are complete
and `m` to the one that has begun. -/
theorem splitOnAux_of_valid (c : Char) (l m r : List Char) (acc : List String) :
    splitOnAux (ofList (l ++ m ++ r)) (ofList [c]) ⟨utf8Len l⟩ ⟨utf8Len (l ++ m)⟩ 0 acc =
      acc.reverse ++ (List.splitOnPPrepend (· == c) r m.reverse).map ofList := by
  induction r generalizing l m acc with
  | nil =>
    have part := extract_of_valid l m []
    rw [← utf8Len_append] at part
    rw [splitOnAux, if_pos ((atEnd_of_valid (l ++ m) []).2 rfl), part]
    simp
  | cons d r ih =>
    have inside : ¬Pos.Raw.atEnd (ofList (l ++ m ++ d :: r)) ⟨utf8Len (l ++ m)⟩ = true :=
      mt (atEnd_of_valid _ _).1 (List.cons_ne_nil _ _)
    have first : Pos.Raw.get (ofList [c]) 0 = c := get_of_valid [] [c]
    have here : Pos.Raw.get (ofList (l ++ m ++ d :: r)) ⟨utf8Len (l ++ m)⟩ = d :=
      get_of_valid (l ++ m) (d :: r)
    have length : utf8Len (l ++ m ++ [d]) = utf8Len (l ++ m) + d.utf8Size := by
      rw [utf8Len_append (l ++ m), utf8Len_cons, utf8Len_nil, Nat.zero_add]
    have next : Pos.Raw.next (ofList (l ++ m ++ d :: r)) ⟨utf8Len (l ++ m)⟩ =
        ⟨utf8Len (l ++ m ++ [d])⟩ := by
      rw [next_of_valid, length]
    have text : l ++ m ++ d :: r = l ++ m ++ [d] ++ r := by simp
    rw [splitOnAux, if_neg inside, first, here, List.splitOnPPrepend_cons_eq_if]
    by_cases same : d = c
    · subst same
      have last : Pos.Raw.next (ofList [d]) 0 = ⟨d.utf8Size⟩ := by
        simpa using next_of_valid [] d []
      have finished : Pos.Raw.atEnd (ofList [d]) ⟨d.utf8Size⟩ = true := by
        simpa using (atEnd_of_valid [d] []).2 rfl
      have before : (⟨utf8Len (l ++ m ++ [d])⟩ : Pos.Raw).unoffsetBy ⟨d.utf8Size⟩ =
          ⟨utf8Len l + utf8Len m⟩ := by
        rw [length, utf8Len_append, Pos.Raw.unoffsetBy, Nat.add_sub_cancel]
      have after := ih (l ++ m ++ [d]) [] (ofList m :: acc)
      rw [List.append_nil] at after
      rw [if_pos (beq_self_eq_true d), next, last, if_pos finished, before, extract_of_valid l m,
        text, after, if_pos (beq_self_eq_true d)]
      simp
    · have other : ¬(d == c) = true := by simpa using same
      have after := ih l (m ++ [d]) acc
      rw [← List.append_assoc, List.reverse_concat] at after
      rw [if_neg other, if_neg other]
      change splitOnAux _ _ _ (Pos.Raw.next _ ⟨utf8Len (l ++ m)⟩) 0 acc = _
      rw [next, text, after]

/-- The pieces of a text are those of its characters. -/
theorem splitOn_slash (s : String) : s.splitOn "/" = (s.toList.splitOn '/').map ofList := by
  have parts := splitOnAux_of_valid '/' [] [] s.toList []
  rw [List.nil_append, List.nil_append, ofList_toList] at parts
  exact parts

/-- Pieces that are joined are the pieces again. -/
theorem splitOn_intercalate_slash {pieces : List String} (some : pieces ≠ [])
    (apart : ∀ piece ∈ pieces, '/' ∉ piece.toList) :
    (String.intercalate "/" pieces).splitOn "/" = pieces := by
  have chars : ∀ cs ∈ pieces.map String.toList, '/' ∉ cs := List.forall_mem_map.2 apart
  rw [splitOn_slash, String.toList_intercalate]
  rw [show "/".toList = ['/'] from rfl, List.splitOn_intercalate _ chars (by simpa using some),
    List.map_map]
  calc pieces.map (ofList ∘ String.toList)
      = pieces.map id := List.map_congr_left fun piece _ => ofList_toList
    _ = pieces := List.map_id pieces

section Lists

variable {α : Type} [DecidableEq α] {a : α} {xs piece : List α}

/-- A piece is a part without the sign at which it was split. -/
theorem mem_splitOn (member : piece ∈ xs.splitOn a) : a ∉ piece ∧ piece.Sublist xs := by
  induction xs generalizing piece with
  | nil =>
    rw [List.splitOn_nil, List.mem_singleton] at member
    simp [member]
  | cons x xs ih =>
    obtain ⟨first, later, split⟩ := List.exists_cons_of_ne_nil (List.splitOn_ne_nil a xs)
    rw [List.splitOn_cons_eq_if_modifyHead, split] at member
    rw [split] at ih
    by_cases same : x = a
    · rw [if_pos (beq_iff_eq.2 same)] at member
      rcases List.mem_cons.1 member with rfl | member
      · simp
      · exact ⟨(ih member).1, (ih member).2.cons x⟩
    · rw [if_neg (mt beq_iff_eq.1 same), List.modifyHead_cons] at member
      rcases List.mem_cons.1 member with rfl | member
      · obtain ⟨apart, part⟩ := ih (.head later)
        exact ⟨by simp [Ne.symm same, apart], part.cons_cons x⟩
      · exact ⟨(ih (.tail _ member)).1, (ih (.tail _ member)).2.cons x⟩

theorem splitOn_append_of_not_mem (apart : a ∉ xs) (ys : List α) :
    (xs ++ ys).splitOn a = (ys.splitOn a).modifyHead (xs ++ ·) := by
  induction xs with
  | nil => cases h : ys.splitOn a <;> simp [h]
  | cons x xs ih =>
    obtain ⟨other, apart⟩ := not_or.1 (mt List.mem_cons.2 apart)
    rw [List.cons_append, List.splitOn_cons_eq_if_modifyHead,
      if_neg (mt beq_iff_eq.1 (Ne.symm other)), ih apart, List.modifyHead_modifyHead]
    rfl

end Lists

/-- A piece of a text is a part of it without a slash. -/
theorem mem_splitOn_slash {s piece : String} (member : piece ∈ s.splitOn "/") :
    '/' ∉ piece.toList ∧ piece.toList.Sublist s.toList := by
  rw [splitOn_slash] at member
  obtain ⟨cs, split, rfl⟩ := List.mem_map.1 member
  rw [toList_ofList]
  exact mem_splitOn split

end IncidentBoard
