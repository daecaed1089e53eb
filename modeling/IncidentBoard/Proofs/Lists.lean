import Mathlib.Data.List.Basic
import Mathlib.Data.List.Forall2
import Mathlib.Data.List.Nodup

/-!
# Lists

What the tables, logs and orders of actions have in common: lists that grow at their end, lists
related item by item, and lists gone through so that each item is taken once.
-/

namespace IncidentBoard

/-! ## Lists that grow at their end -/

section Concat

variable {α β : Type} {xs before after : List α} {x y : α}

/-- A list that grows at its end splits at its new last element, or where it split before. -/
theorem concat_eq_split_iff : xs ++ [x] = before ++ y :: after ↔
    (xs = before ∧ x = y ∧ after = []) ∨
      ∃ rest, xs = before ++ y :: rest ∧ after = rest ++ [x] := by
  rcases List.eq_nil_or_concat' after with rfl | ⟨rest, z, rfl⟩
  · simp
  · rw [← List.cons_append, ← List.append_assoc, List.append_singleton_inj]
    constructor
    · rintro ⟨rfl, rfl⟩
      exact .inr ⟨rest, rfl, rfl⟩
    · rintro (⟨-, -, none⟩ | ⟨_, rfl, same⟩)
      · simp at none
      · obtain ⟨rfl, rfl⟩ := List.append_singleton_inj.1 same
        exact ⟨rfl, rfl⟩

theorem forall_mem_concat {P : α → Prop} (old : ∀ y ∈ xs, P y) (new : P x) :
    ∀ y ∈ xs ++ [x], P y := by
  intro y member
  rcases List.mem_append.1 member with earlier | here
  · exact old y earlier
  · exact List.mem_singleton.1 here ▸ new

theorem nodup_map_concat {f : α → β} (h : (xs.map f).Nodup)
    (own : ∀ y ∈ xs, f x ≠ f y) : ((xs ++ [x]).map f).Nodup := by
  have new : f x ∉ xs.map f := by
    rintro member
    obtain ⟨y, hy, same⟩ := List.mem_map.1 member
    exact own y hy same.symm
  simpa [List.concat_eq_append] using List.Nodup.concat new h

end Concat

/-! ## Lists related item by item -/

theorem forall₂_mem {α β : Type} {R : α → β → Prop} {xs : List α} {ys : List β}
    (h : List.Forall₂ R xs ys) {x : α} (member : x ∈ xs) : ∃ y ∈ ys, R x y := by
  induction h with
  | nil => cases member
  | cons first _ ih =>
    rcases List.mem_cons.1 member with rfl | later
    · exact ⟨_, .head _, first⟩
    · obtain ⟨y, hy, related⟩ := ih later
      exact ⟨y, .tail _ hy, related⟩

/-! ## Items taken once -/

section Distinct

variable {α : Type} [BEq α] [LawfulBEq α]

theorem mem_foldl_distinct (xs seen : List α) (x : α) :
    x ∈ xs.foldl (fun seen c => if seen.contains c then seen else seen ++ [c]) seen ↔
      x ∈ seen ∨ x ∈ xs := by
  induction xs generalizing seen with
  | nil => simp
  | cons c rest ih =>
    rw [List.foldl_cons, ih]
    by_cases member : c ∈ seen
    · rw [if_pos (List.contains_iff_mem.2 member)]
      grind
    · rw [if_neg (by simpa using member)]
      grind

theorem nodup_foldl_distinct (xs : List α) {seen : List α}
    (once : seen.Nodup) :
    (xs.foldl (fun seen c => if seen.contains c then seen else seen ++ [c]) seen).Nodup := by
  induction xs generalizing seen with
  | nil => exact once
  | cons c rest ih =>
    rw [List.foldl_cons]
    by_cases member : c ∈ seen
    · rw [if_pos (List.contains_iff_mem.2 member)]
      exact ih once
    · rw [if_neg (by simpa using member)]
      exact ih (by simpa [List.nodup_append] using ⟨once, fun a ha same => member (same ▸ ha)⟩)

end Distinct

end IncidentBoard
