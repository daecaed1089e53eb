import IncidentBoard.Proofs.Lists
import IncidentBoard.Proofs.Store.Atomic

/-!
# Ledgers

What the operations on a store have written, one after another, some of them failing. The ledger
of a store lists what was asked for by the operations that were kept, and the store has one row for
each entry. Its rows have keys of their own, and its links point to rows.

## Main definitions

* `Operation`, `Store.perform`, `Store.performAll` — operations, and the store after them.
* `Ledger`, `Store.written`, `Store.ledger` — what operations have written.
* `Store.Sound` — keys and links as they should be.
* `Store.performAll_preserves` — what every transaction preserves, any operations preserve.
* `Store.gains_performAll`, `Store.Sound.performAll` — what holds after any operations.
-/

namespace IncidentBoard

/-- An operation of a writer: a unit, or a transaction whose steps say whether their failure is
caught. -/
inductive Operation where
  | unit (w : Writing)
  | transaction (steps : List (WriteStep × Bool))

def Operation.steps : Operation → List (WriteStep × Bool)
  | .unit w => w.steps.map fun step => (step, false)
  | .transaction steps => steps

/-- The attributes of runs, the ids and times of posts, and the links that were written. -/
structure Ledger where
  runs : List Json.Fields
  posts : List (Json × Json)
  links : List (Json × Json)

namespace Ledger

def blank : Ledger := ⟨[], [], []⟩

def append (a b : Ledger) : Ledger := ⟨a.runs ++ b.runs, a.posts ++ b.posts, a.links ++ b.links⟩

instance : Append Ledger := ⟨append⟩

variable (a b : Ledger)

@[simp] theorem runs_append : (a ++ b).runs = a.runs ++ b.runs := rfl

@[simp] theorem posts_append : (a ++ b).posts = a.posts ++ b.posts := rfl

@[simp] theorem links_append : (a ++ b).links = a.links ++ b.links := rfl

@[simp] theorem blank_append : blank ++ b = b := rfl

theorem append_assoc (c : Ledger) : a ++ b ++ c = a ++ (b ++ c) := by
  change append (append a b) c = append a (append b c)
  simp only [append, List.append_assoc]

/-- What a unit asks for. -/
def ofWriting (w : Writing) : Ledger := ⟨w.runs, w.posts, w.links⟩

/-- What steps ask for. -/
def ofSteps (steps : List WriteStep) : Ledger :=
  ⟨steps.filterMap WriteStep.run?, steps.filterMap WriteStep.post?,
    steps.filterMap WriteStep.link?⟩

end Ledger

namespace Store

/-! ## Operations -/

/-- The store after an operation; one that fails leaves it as it was. -/
def perform (s : Store) : Operation → Store
  | .unit w =>
    match s.record w with
    | .ok t => t
    | .error _ => s
  | .transaction steps => (s.transaction steps).2

/-- What an operation has written: all that a unit asks for, what the steps of a transaction ask
for that succeeded, or nothing if it fails. -/
def written (s : Store) : Operation → Ledger
  | .unit w =>
    match s.record w with
    | .ok _ => .ofWriting w
    | .error _ => .blank
  | .transaction steps =>
    match (s.transaction steps).1.failed with
    | none => .ofSteps (succeeded steps (s.transaction steps).1.made)
    | some _ => .blank

def performAll (s : Store) (ops : List Operation) : Store := ops.foldl perform s

/-- What operations have written. -/
def ledger (s : Store) : List Operation → Ledger
  | [] => .blank
  | op :: rest => s.written op ++ (s.perform op).ledger rest

variable {s t : Store}

theorem ledger_append (s : Store) (before after : List Operation) :
    s.ledger (before ++ after) = s.ledger before ++ (s.performAll before).ledger after := by
  induction before generalizing s with
  | nil => rfl
  | cons op rest ih =>
    rw [List.cons_append, ledger, ledger, ih, Ledger.append_assoc]
    rfl

/-! ## Rows -/

/-- A store that has one more row for each entry of a ledger. -/
def Enters (ledger : Ledger) (s t : Store) : Prop := Gains ledger.runs ledger.posts ledger.links s t

theorem enters_perform (s : Store) (op : Operation) : Enters (s.written op) s (s.perform op) := by
  cases op with
  | unit w =>
    cases made : s.record w with
    | ok t =>
      simp only [written, perform, made]
      exact gainsOf_steps_iff.1 (write_ok made)
    | error f =>
      simp only [written, perform, made]
      exact .refl s
  | transaction steps =>
    rcases s.transaction_cases steps with ⟨done, kept⟩ | ⟨f, failed, undone⟩
    · simp only [written, perform, done]
      exact kept.gains
    · simp only [written, perform, failed, undone.store]
      exact .refl s

/-- A store has one more row for each entry of its ledger. -/
theorem enters_performAll (s : Store) (ops : List Operation) :
    Enters (s.ledger ops) s (s.performAll ops) := by
  induction ops generalizing s with
  | nil => exact .refl s
  | cons op rest ih => exact (s.enters_perform op).trans (ih (s.perform op))

/-! ## What is preserved -/

/-- What every step that succeeds preserves, steps in turn preserve. -/
theorem runAll_preserves {P : Scope → Prop} {scope last : Scope} {steps : List (WriteStep × Bool)}
    (kept : ∀ {scope next step}, P scope → Scope.step scope step = .ok next → P next)
    (before : P scope) (h : (scope.runAll steps).2 = .ok last) : P last := by
  induction steps generalizing scope with
  | nil => cases h; exact before
  | cons x rest ih =>
    obtain ⟨step, caught⟩ := x
    unfold Scope.runAll at h
    cases made : scope.step step with
    | ok after =>
      rw [made] at h
      exact ih (kept before made) h
    | error f =>
      rw [made] at h
      cases caught with
      | true => exact ih before h
      | false => cases h

/-- What holds at the end of a transaction that is kept holds after one that held it before. -/
theorem transaction_preserves {P : Store → Prop} {steps : List (WriteStep × Bool)} (before : P s)
    (ends : ∀ scope t, ((Scope.start s).runAll steps).2 = .ok scope → scope.commit = .ok t → P t) :
    P (s.transaction steps).2 := by
  unfold Store.transaction
  cases ended : ((Scope.start s).runAll steps).2 with
  | error f =>
    simp only [ended]
    exact before
  | ok scope =>
    simp only [ended]
    cases done : scope.commit with
    | error f => exact before
    | ok store => exact ends scope store ended done

/-- An operation comes to a transaction of its steps. -/
theorem perform_eq (s : Store) (op : Operation) : s.perform op = (s.transaction op.steps).2 := by
  cases op with
  | transaction steps => rfl
  | unit w =>
    rcases s.transaction_cases (w.steps.map fun step => (step, false)) with
      ⟨done, -⟩ | ⟨f, failed, undone⟩
    · simp only [perform, record, write, done, Operation.steps]
    · simp only [perform, record, write, failed, Operation.steps, undone.store]

/-- What every transaction preserves, operations preserve. -/
theorem performAll_preserves {P : Store → Prop}
    (kept : ∀ {s : Store} steps, P s → P (s.transaction steps).2) (before : P s)
    (ops : List Operation) : P (s.performAll ops) := by
  induction ops generalizing s with
  | nil => exact before
  | cons op rest ih =>
    refine ih ?_
    rw [perform_eq]
    exact kept op.steps before

/-! ## Keys and links -/

/-- Rows with keys of their own. -/
structure Keyed (s : Store) : Prop where
  runs : (s.runRows.map RunRow.id).Nodup
  posts : (s.postRows.map PostRow.id).Nodup
  links : s.linkRows.Nodup

/-- Rows with keys of their own, and links that point to rows. -/
structure Sound (s : Store) : Prop extends Keyed s where
  points : ∀ l ∈ s.linkRows, s.Points l

theorem linked_iff : s.linked = true ↔ ∀ l ∈ s.linkRows, s.Points l := by
  simp [linked, Points]

end Store

namespace Scope

variable {scope next : Scope}

/-- Rows with keys of their own, and links that point to rows unless they are checked late. -/
structure Sound (scope : Scope) : Prop where
  keyed : scope.store.Keyed
  points : scope.deferred = false → ∀ l ∈ scope.store.linkRows, scope.store.Points l

theorem inserted_deferred {table : Table} {result : Except Store.Refusal Store}
    (h : scope.inserted table result = .ok next) : next.deferred = scope.deferred := by
  cases result with
  | ok store => cases h; rfl
  | error why => cases why <;> cases h

theorem Sound.step {step : WriteStep} (sound : scope.Sound)
    (h : scope.step step = .ok next) : next.Sound := by
  obtain ⟨keyed, points⟩ := sound
  cases step with
  | run attributes =>
    obtain ⟨rows, row, table, after, -, own, -⟩ := Store.insertRun_ok (inserted_ok h)
    have runs : scope.store.runRows = rows := by simp [Store.runRows, table]
    refine ⟨⟨?_, ?_, ?_⟩, fun early l member => ?_⟩
    · rw [after]
      exact nodup_map_concat (runs ▸ keyed.runs) own
    · rw [after]
      exact keyed.posts
    · rw [after]
      exact keyed.links
    · rw [inserted_deferred h] at early
      rw [after] at member ⊢
      obtain ⟨⟨r, hr, id⟩, post⟩ := points early l member
      exact ⟨⟨r, List.mem_append_left _ (runs ▸ hr), id⟩, post⟩
  | post id createAt =>
    obtain ⟨rows, row, table, after, -, own, -⟩ := Store.insertPost_ok (inserted_ok h)
    have posts : scope.store.postRows = rows := by simp [Store.postRows, table]
    refine ⟨⟨?_, ?_, ?_⟩, fun early l member => ?_⟩
    · rw [after]
      exact keyed.runs
    · rw [after]
      exact nodup_map_concat (posts ▸ keyed.posts) own
    · rw [after]
      exact keyed.links
    · rw [inserted_deferred h] at early
      rw [after] at member ⊢
      obtain ⟨run, p, hp, id⟩ := points early l member
      exact ⟨run, p, List.mem_append_left _ (posts ▸ hp), id⟩
  | link incident post =>
    obtain ⟨rows, row, table, after, -, own, target, -⟩ := Store.insertLink_ok (inserted_ok h)
    have links : scope.store.linkRows = rows := by simp [Store.linkRows, table]
    refine ⟨⟨?_, ?_, ?_⟩, fun early l member => ?_⟩
    · rw [after]
      exact keyed.runs
    · rw [after]
      exact keyed.posts
    · rw [after]
      simpa [Store.linkRows, List.concat_eq_append] using
        List.Nodup.concat own (links ▸ keyed.links)
    · rw [inserted_deferred h] at early
      rw [after] at member ⊢
      rcases List.mem_append.1 member with old | new
      · exact points early l (links ▸ old)
      · obtain rfl := List.mem_singleton.1 new
        exact target early
  | deferLinks =>
    cases h
    exact ⟨keyed, fun early => nomatch early⟩
  | giveUp f => cases h

/-- Links that were checked late are checked at the end. -/
theorem Sound.commit {store : Store} (sound : scope.Sound) (h : scope.commit = .ok store) :
    store.Sound := by
  obtain rfl := commit_ok h
  refine ⟨sound.keyed, ?_⟩
  cases late : scope.deferred with
  | false => exact sound.points late
  | true =>
    unfold Scope.commit at h
    split at h
    · cases h
    · rename_i linked
      exact Store.linked_iff.1 (by simpa [late] using linked)

end Scope

namespace Store

variable {s : Store}

theorem sound_empty : empty.Sound :=
  ⟨⟨.nil, .nil, .nil⟩, fun _ member => nomatch member⟩

theorem Sound.transaction (sound : s.Sound) (steps : List (WriteStep × Bool)) :
    (s.transaction steps).2.Sound := by
  have start : (Scope.start s).Sound := ⟨sound.toKeyed, fun _ => sound.points⟩
  refine transaction_preserves sound fun scope t ended done => ?_
  exact (runAll_preserves Scope.Sound.step start ended).commit done

theorem Sound.performAll (sound : s.Sound) (ops : List Operation) : (s.performAll ops).Sound :=
  performAll_preserves (fun steps sound => sound.transaction steps) sound ops

end Store

end IncidentBoard
