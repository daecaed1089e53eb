import IncidentBoard.Proofs.Store.Ledger

/-!
# The integrity of a store

A store whose tables began empty satisfies what they declare, whatever operations were made on it
and whichever of them failed: keys are unique, links point to rows, and no cell is null. Rows that
were committed stay as they are, before those that come later.

## Main definitions

* `Store.Filled` — no cell of a row is null.
* `Store.Intact` — all that the tables declare.
* `Store.Grows` — the rows of a store come first in another one.
* `Store.stays_intact` — what holds after any operations.
-/

namespace IncidentBoard

namespace Store

/-- Rows without nulls. -/
structure Filled (s : Store) : Prop where
  runs : ∀ r ∈ s.runRows, ∀ c, r.get c ≠ .null
  posts : ∀ p ∈ s.postRows, ∀ c, p.get c ≠ .null
  links : ∀ l ∈ s.linkRows, ∀ c, l.get c ≠ .null

/-- All that the tables declare: keys of their own, links that point to rows, and no nulls. -/
structure Intact (s : Store) : Prop extends Sound s where
  filled : s.Filled

/-- In every table the rows of a store come first, as they were. -/
structure Grows (s t : Store) : Prop where
  runs : s.runRows <+: t.runRows
  posts : s.postRows <+: t.postRows
  links : s.linkRows <+: t.linkRows

/-! ## Nulls -/

theorem filled_empty : empty.Filled where
  runs := List.forall_mem_nil _
  posts := List.forall_mem_nil _
  links := List.forall_mem_nil _

/-- A step that succeeds adds no null. -/
theorem Filled.step {scope next : Scope} {step : WriteStep} (filled : scope.store.Filled)
    (h : scope.step step = .ok next) : next.store.Filled := by
  cases step with
  | run attributes =>
    obtain ⟨rows, row, table, after, -, -, full, -⟩ := insertRun_ok (Scope.inserted_ok h)
    have old := filled.runs
    rw [runRows, table] at old
    rw [after]
    exact ⟨forall_mem_concat old full, filled.posts, filled.links⟩
  | post id createAt =>
    obtain ⟨rows, row, table, after, -, -, full⟩ := insertPost_ok (Scope.inserted_ok h)
    have old := filled.posts
    rw [postRows, table] at old
    rw [after]
    exact ⟨filled.runs, forall_mem_concat old full, filled.links⟩
  | link incident post =>
    obtain ⟨rows, row, table, after, -, -, -, full⟩ := insertLink_ok (Scope.inserted_ok h)
    have old := filled.links
    rw [linkRows, table] at old
    rw [after]
    exact ⟨filled.runs, filled.posts, forall_mem_concat old full⟩
  | deferLinks =>
    cases h
    exact filled
  | giveUp f => cases h

theorem Filled.transaction {s : Store} (filled : s.Filled) (steps : List (WriteStep × Bool)) :
    (s.transaction steps).2.Filled := by
  refine transaction_preserves filled fun scope t ended done => ?_
  rw [Scope.commit_ok done]
  exact runAll_preserves (P := fun scope => scope.store.Filled) Filled.step filled ended

theorem intact_empty : empty.Intact := ⟨sound_empty, filled_empty⟩

/-- Operations keep what the tables declare. -/
theorem Intact.performAll {s : Store} (intact : s.Intact) (ops : List Operation) :
    (s.performAll ops).Intact :=
  ⟨intact.toSound.performAll ops,
    performAll_preserves (fun steps filled => filled.transaction steps) intact.filled ops⟩

/-! ## Growth -/

theorem Adds.begins {κ ρ : Type} {records : κ → ρ → Prop} {requests : List κ}
    {old new : Option (List ρ)} (adds : Adds records requests old new) :
    old.getD [] <+: new.getD [] := by
  obtain ⟨added, -, rfl, -⟩ := adds
  cases old with
  | none => exact List.prefix_refl []
  | some rows => exact List.prefix_append rows added

theorem grows_performAll (s : Store) (ops : List Operation) : s.Grows (s.performAll ops) := by
  have enters := s.enters_performAll ops
  exact ⟨enters.addRuns.begins, enters.addPosts.begins, enters.addLinks.begins⟩

/-! ## Any operations -/

/-- After any operations on a store that began empty, each made as a unit or as a transaction, with
any values and with any failures on the way: ids of runs, ids of posts and links are unique, every
link points to a run and to a post, no cell is null, and what was there after the earlier operations
is still there. -/
theorem stays_intact (earlier later : List Operation) :
    (empty.performAll (earlier ++ later)).Intact ∧
      (empty.performAll earlier).Grows (empty.performAll (earlier ++ later)) := by
  refine ⟨intact_empty.performAll _, ?_⟩
  have resumed : empty.performAll (earlier ++ later) =
      (empty.performAll earlier).performAll later := List.foldl_append
  rw [resumed]
  exact grows_performAll _ later

end Store

end IncidentBoard
