import IncidentBoard.Store.Transaction
import IncidentBoard.Proofs.Store.Inserted

/-!
# All or nothing

A transaction that ends well has added exactly the rows of the steps that succeeded, and one that
fails has added none, whichever step or whatever end made it fail. A unit of writes none of whose
failures is caught is made as a whole or not at all.

## Main definitions

* `Store.Adds`, `Store.Gains` — a table, and a store, with just the rows added that are asked for.
* `Store.succeeded` — the steps of a transaction that succeeded.
* `Store.Kept`, `Store.Undone` — what becomes of a transaction.
* `Store.all_or_nothing` — one of the two becomes of every transaction and of every unit.
-/

namespace IncidentBoard

/-! ## What is asked for -/

namespace WriteStep

/-- The attributes of the run that a step asks for. -/
def run? : WriteStep → Option Json.Fields
  | .run attributes => some attributes
  | _ => none

/-- The id and the time of the post that a step asks for. -/
def post? : WriteStep → Option (Json × Json)
  | .post id createAt => some (id, createAt)
  | _ => none

/-- The ids of the run and of the post that a step asks to link. -/
def link? : WriteStep → Option (Json × Json)
  | .link incident postId => some (incident, postId)
  | _ => none

end WriteStep

namespace Writing

/-- The attributes of the runs that a unit asks for. -/
def runs : Writing → List Json.Fields
  | .run attributes | .runWithPost attributes _ _ => [attributes]
  | _ => []

/-- The ids and times of the posts that a unit asks for. The first post of a run has the time of
the run unless another one is given. -/
def posts : Writing → List (Json × Json)
  | .post id createAt | .statusUpdate _ id createAt => [(id, createAt)]
  | .runWithPost attributes id createAt =>
    if given id then
      [(id, if given createAt then createAt
        else (attributes.get? RunColumn.createAt.word).getD (.int 0))]
    else []
  | _ => []

/-- The ids of the runs and posts that a unit asks to link. -/
def links : Writing → List (Json × Json)
  | .link incident postId | .statusUpdate incident postId _ => [(incident, postId)]
  | .runWithPost attributes postId _ =>
    if given postId then [((attributes.get? RunColumn.id.word).getD .null, postId)] else []
  | _ => []

end Writing

namespace Store

/-! ## Rows that are added -/

/-- A table to which rows were added behind the others, one for each request. -/
def Adds {κ ρ : Type} (records : κ → ρ → Prop) (requests : List κ) (old new : Option (List ρ)) :
    Prop :=
  ∃ added, List.Forall₂ records requests added ∧ new = old.map (· ++ added) ∧
    (requests ≠ [] → old ≠ none)

/-- A store to which just the rows were added that are asked for; the others are as they were. -/
structure Gains (runs : List Json.Fields) (posts links : List (Json × Json)) (s t : Store) :
    Prop where
  addRuns : Adds RunRow.Records runs s.runs t.runs
  addPosts : Adds PostRow.Records posts s.posts t.posts
  addLinks : Adds LinkRow.Records links s.links t.links

/-- A store to which just the rows were added that steps ask for. -/
def GainsOf (steps : List WriteStep) (s t : Store) : Prop :=
  Gains (steps.filterMap WriteStep.run?) (steps.filterMap WriteStep.post?)
    (steps.filterMap WriteStep.link?) s t

namespace Adds

variable {κ ρ : Type} {records : κ → ρ → Prop} {xs ys : List κ} {a b c : Option (List ρ)}

theorem refl (a : Option (List ρ)) : Adds records [] a a :=
  ⟨[], .nil, by simp, by simp⟩

theorem trans (first : Adds records xs a b) (second : Adds records ys b c) :
    Adds records (xs ++ ys) a c := by
  obtain ⟨added, rows, rfl, table⟩ := first
  obtain ⟨more, rows', rfl, table'⟩ := second
  refine ⟨added ++ more, List.rel_append rows rows', ?_, fun some => ?_⟩
  · cases a <;> simp
  · rintro rfl
    by_cases empty : xs = []
    · exact table' (by simpa [empty] using some) rfl
    · exact table empty rfl

theorem one {k : κ} {row : ρ} {rows : List ρ} (table : a = some rows) (record : records k row) :
    Adds records [k] a (some (rows ++ [row])) :=
  ⟨[row], .cons record .nil, by simp [table], fun _ => by simp [table]⟩

end Adds

section Gains

variable {s t u : Store}

theorem Gains.refl (s : Store) : Gains [] [] [] s s :=
  ⟨.refl _, .refl _, .refl _⟩

theorem Gains.trans {runs more : List Json.Fields} {posts moreP links moreL : List (Json × Json)}
    (first : Gains runs posts links s t) (second : Gains more moreP moreL t u) :
    Gains (runs ++ more) (posts ++ moreP) (links ++ moreL) s u :=
  ⟨first.addRuns.trans second.addRuns, first.addPosts.trans second.addPosts,
    first.addLinks.trans second.addLinks⟩

theorem GainsOf.refl (s : Store) : GainsOf [] s s := Gains.refl s

theorem GainsOf.trans {xs ys : List WriteStep} (first : GainsOf xs s t) (second : GainsOf ys t u) :
    GainsOf (xs ++ ys) s u := by
  unfold GainsOf
  simp only [List.filterMap_append]
  exact Gains.trans first second

end Gains

end Store

/-! ## Steps -/

namespace Scope

variable {scope next : Scope} {step : WriteStep}

theorem inserted_ok {table : Table} {result : Except Store.Refusal Store}
    (h : scope.inserted table result = .ok next) : result = .ok next.store := by
  cases result with
  | ok store => cases h; rfl
  | error why => cases why <;> cases h

/-- A step that succeeds adds the row that it asks for. -/
theorem step_ok (h : scope.step step = .ok next) :
    Store.GainsOf [step] scope.store next.store := by
  cases step with
  | run attributes =>
    obtain ⟨rows, row, table, after, record, -⟩ := Store.insertRun_ok (inserted_ok h)
    rw [after]
    exact ⟨.one table record, .refl _, .refl _⟩
  | post id createAt =>
    obtain ⟨rows, row, table, after, record, -⟩ := Store.insertPost_ok (inserted_ok h)
    rw [after]
    exact ⟨.refl _, .one table record, .refl _⟩
  | link incident post =>
    obtain ⟨rows, row, table, after, record, -⟩ := Store.insertLink_ok (inserted_ok h)
    rw [after]
    exact ⟨.refl _, .refl _, .one table record⟩
  | deferLinks =>
    cases h
    exact ⟨.refl _, .refl _, .refl _⟩
  | giveUp f => cases h

theorem commit_ok {store : Store} (h : scope.commit = .ok store) : store = scope.store := by
  unfold commit at h
  split at h
  · cases h
  · cases h
    rfl

/-- Only a link that points nowhere makes the end of a transaction fail. -/
theorem commit_error {f : Failure} (h : scope.commit = .error f) :
    scope.store.linked = false ∧
      f = .persistence scope.tablesText Store.Rejection.dangling.message := by
  unfold commit at h
  split at h
  · rename_i late
    cases h
    exact ⟨by simp_all, rfl⟩
  · cases h

end Scope

/-! ## Transactions -/

namespace Store

/-- The steps that succeeded, told by the failures of the steps made. -/
def succeeded : List (WriteStep × Bool) → List (Option Failure) → List WriteStep
  | (step, _) :: steps, none :: made => step :: succeeded steps made
  | _ :: steps, some _ :: made => succeeded steps made
  | _, _ => []

/-- A transaction that was kept: all steps were made, those that failed were caught, and just the
rows of those that succeeded were added. -/
structure Kept (steps : List (WriteStep × Bool)) (made : List (Option Failure)) (s t : Store) :
    Prop where
  all : made.length = steps.length
  caught : ∀ x ∈ steps.zip made, x.2 ≠ none → x.1.2 = true
  gains : GainsOf (succeeded steps made) s t

/-- The failure of the last step made, which was not caught. -/
def Raised (steps : List (WriteStep × Bool)) (made : List (Option Failure)) (f : Failure) : Prop :=
  ∃ earlier step, made = earlier ++ [some f] ∧ steps[earlier.length]? = some (step, false)

/-- A transaction that was undone: the store is as it was. A step failed and was not caught, or
all steps were made and links that point nowhere were found at the end. -/
structure Undone (steps : List (WriteStep × Bool)) (made : List (Option Failure)) (f : Failure)
    (s t : Store) : Prop where
  store : t = s
  cause : Raised steps made f ∨ made.length = steps.length ∧
    ∃ tables, f = .persistence tables Rejection.dangling.message

/-- Steps in turn: kept so far, or ended by a failure that was not caught. -/
theorem runAll_cases (steps : List (WriteStep × Bool)) (scope : Scope) :
    (∃ last, (scope.runAll steps).2 = .ok last ∧
      Kept steps (scope.runAll steps).1 scope.store last.store) ∨
    ∃ f, (scope.runAll steps).2 = .error f ∧ Raised steps (scope.runAll steps).1 f := by
  induction steps generalizing scope with
  | nil => exact .inl ⟨scope, rfl, rfl, by simp, .refl _⟩
  | cons x rest ih =>
    obtain ⟨step, caught⟩ := x
    cases made : scope.step step with
    | ok next =>
      have run : scope.runAll ((step, caught) :: rest) =
          (none :: (next.runAll rest).1, (next.runAll rest).2) := by
        simp [Scope.runAll, made]
      rw [run]
      rcases ih next with ⟨last, ended, kept⟩ | ⟨f, ended, earlier, failing, raised, uncaught⟩
      · refine .inl ⟨last, ended, by simp [kept.all], ?_, ?_⟩
        · simpa using kept.caught
        · exact (Scope.step_ok made).trans kept.gains
      · exact .inr ⟨f, ended, none :: earlier, failing, by simp [raised], by simpa using uncaught⟩
    | error f =>
      cases caught with
      | false =>
        have run : scope.runAll ((step, false) :: rest) = ([some f], .error f) := by
          simp [Scope.runAll, made]
        rw [run]
        exact .inr ⟨f, rfl, [], step, rfl, rfl⟩
      | true =>
        -- The failure is caught, and the rest goes on from the scope before.
        have run : scope.runAll ((step, true) :: rest) =
            (some f :: (scope.runAll rest).1, (scope.runAll rest).2) := by
          simp [Scope.runAll, made]
        rw [run]
        rcases ih scope with ⟨last, ended, kept⟩ | ⟨g, ended, earlier, failing, raised, uncaught⟩
        · exact .inl ⟨last, ended, by simp [kept.all], by simpa using kept.caught, kept.gains⟩
        · exact .inr ⟨g, ended, some f :: earlier, failing, by simp [raised],
            by simpa using uncaught⟩

/-- A transaction is kept or undone. -/
theorem transaction_cases (s : Store) (steps : List (WriteStep × Bool)) :
    ((s.transaction steps).1.failed = none ∧
      Kept steps (s.transaction steps).1.made s (s.transaction steps).2) ∨
    ∃ f, (s.transaction steps).1.failed = some f ∧
      Undone steps (s.transaction steps).1.made f s (s.transaction steps).2 := by
  unfold transaction
  rcases runAll_cases steps (.start s) with ⟨last, ended, kept⟩ | ⟨f, ended, raised⟩
  · simp only [ended]
    cases done : last.commit with
    | ok store =>
      obtain rfl := Scope.commit_ok done
      exact .inl ⟨rfl, kept⟩
    | error f => exact .inr ⟨f, rfl, rfl, .inr ⟨kept.all, _, (Scope.commit_error done).2⟩⟩
  · simp only [ended]
    exact .inr ⟨f, rfl, rfl, .inl raised⟩

/-- Where no failure is caught, every step of a transaction that was kept has succeeded. -/
theorem Kept.succeeded_eq {steps : List (WriteStep × Bool)} {made : List (Option Failure)}
    {s t : Store} (kept : Kept steps made s t) (none : ∀ x ∈ steps, x.2 = false) :
    succeeded steps made = steps.map (·.1) := by
  have caught := kept.caught
  have all := kept.all
  clear kept
  induction steps generalizing made with
  | nil => simp [succeeded]
  | cons x rest ih =>
    cases made with
    | nil => simp at all
    | cons m made =>
      have uncaught := none x (.head _)
      cases m with
      | some f =>
        have impossible := caught (x, some f) (by simp) (by simp)
        simp [uncaught] at impossible
      | none =>
        rw [succeeded, List.map_cons]
        refine congrArg _
          (ih (fun y hy => none y (.tail _ hy)) (fun y hy => ?_) (by simpa using all))
        exact caught y (by simp [hy])

/-! ## Units -/

/-- The steps of a unit ask for what the unit asks for. -/
theorem gainsOf_steps_iff {w : Writing} {s t : Store} :
    GainsOf w.steps s t ↔ Gains w.runs w.posts w.links s t := by
  cases w with
  | runWithPost attributes postId createAt =>
    cases given : Writing.given postId <;>
      simp only [Writing.steps, Writing.runs, Writing.posts, Writing.links, given, if_true,
        Bool.false_eq_true, if_false] <;> rfl
  | _ => rfl

theorem write_ok {s t : Store} {steps : List WriteStep} (h : s.write steps = .ok t) :
    GainsOf steps s t := by
  rcases s.transaction_cases (steps.map fun step => (step, false)) with
    ⟨done, kept⟩ | ⟨f, failed, -⟩
  · simp only [write, done] at h
    cases h
    have all := kept.succeeded_eq (by simp)
    rw [List.map_map, Function.comp_def, List.map_id'] at all
    have gains := kept.gains
    rw [all] at gains
    exact gains
  · simp only [write, failed] at h
    cases h

/-- Every transaction is kept with just the rows of the steps that succeeded, or undone; where no
failure is caught it is kept with the rows of all steps. Every unit adds just the rows that it asks
for, or fails and leaves the store as it was. -/
theorem all_or_nothing (s : Store) :
    (∀ steps, ((s.transaction steps).1.failed = none ∧
        Kept steps (s.transaction steps).1.made s (s.transaction steps).2) ∨
      ∃ f, (s.transaction steps).1.failed = some f ∧
        Undone steps (s.transaction steps).1.made f s (s.transaction steps).2) ∧
      (∀ steps, (∀ x ∈ steps, x.2 = false) → (s.transaction steps).1.failed = none →
        GainsOf (steps.map (·.1)) s (s.transaction steps).2) ∧
      ∀ w : Writing, (∃ t, s.record w = .ok t ∧ Gains w.runs w.posts w.links s t) ∨
        ∃ f, s.record w = .error f ∧
          (s.transaction (w.steps.map fun step => (step, false))).2 = s := by
  refine ⟨s.transaction_cases, fun steps uncaught done => ?_, fun w => ?_⟩
  · rcases s.transaction_cases steps with ⟨-, kept⟩ | ⟨f, failed, -⟩
    · exact kept.succeeded_eq uncaught ▸ kept.gains
    · rw [failed] at done
      cases done
  · cases h : s.record w with
    | ok t => exact .inl ⟨t, rfl, gainsOf_steps_iff.1 (write_ok h)⟩
    | error f =>
      refine .inr ⟨f, rfl, ?_⟩
      rcases s.transaction_cases (w.steps.map fun step => (step, false)) with
        ⟨done, -⟩ | ⟨g, -, undone⟩
      · simp only [record, write, done] at h
        cases h
      · exact undone.store

end Store

end IncidentBoard
