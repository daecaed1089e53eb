import IncidentBoard.Proofs.Store.Inserted
import IncidentBoard.Store.Transaction

/-!
# Refused inserts

A unit of writes fails with the first of its inserts that adds no row. If the store rejects that
insert, the failure names the table of it. A whole number of more than 64 bits fits no cell at all,
and a text with a surrogate on its own has no octets in UTF-8; an insert of one is not rejected by
the store, and its failure names no table.

## Main definitions

* `Store.insert`, `WriteStep.table?`, `WriteStep.values` — the insert of a step, its table and the
  values it is given.
* `Store.Refuses` — the first of some inserts that adds no row.
* `Store.Refusal.ComesOf` — the values that fit no cell.
* `Store.cellsFrom_error`, `Store.insert_error` — inserts that are not rejected were given such a
  value.
* `Store.refusals_named` — how units end.
-/

namespace IncidentBoard

namespace WriteStep

/-- The table that a step inserts into. -/
def table? : WriteStep → Option Table
  | .run _ => some .runs
  | .post _ _ => some .posts
  | .link _ _ => some .links
  | .deferLinks | .giveUp _ => none

/-- The values that an insert is given. -/
def values : WriteStep → List Json
  | .run attributes => attributes.map Prod.snd
  | .post id createAt => [id, createAt]
  | .link incident postId => [incident, postId]
  | .deferLinks | .giveUp _ => []

end WriteStep

namespace Store

/-- The store with the row of an insert added; links are checked at once. -/
def insert (s : Store) : WriteStep → Except Refusal Store
  | .run attributes => s.insertRun attributes
  | .post id createAt => s.insertPost id createAt
  | .link incident post => s.insertLink false incident post
  | .deferLinks | .giveUp _ => .ok s

/-- The first of some inserts that adds no row, and why; those before it add theirs. -/
inductive Refuses : Store → List WriteStep → WriteStep → Refusal → Prop
  | here {s : Store} {step : WriteStep} {rest : List WriteStep} {why : Refusal} :
    s.insert step = .error why → Refuses s (step :: rest) step why
  | later {s t : Store} {step refused : WriteStep} {rest : List WriteStep} {why : Refusal} :
    s.insert step = .ok t → Refuses t rest refused why → Refuses s (step :: rest) refused why

/-- The failure of an insert into a table that adds no row. -/
def Refusal.failure (table : Table) : Refusal → Failure
  | .rejected reason => .persistence table.word reason.message
  | .tooLarge => .foreign .integerTooLarge
  | .unencodable text => .foreign (.unencodable text)

/-! ## Values that fit no cell -/

/-- A whole number that fits no cell. -/
def IsTooLarge (v : Json) : Prop := ∃ n, v = .int n ∧ Cell.fitsInt n = false

def Refusal.IsRejection (why : Refusal) : Prop := ∃ reason, why = .rejected reason

/-- A value that an insert is refused for before the store has a row to reject. -/
def Refusal.ComesOf : Refusal → Json → Prop
  | .rejected _, _ => False
  | .tooLarge, v => IsTooLarge v
  | .unencodable text, v => v = .loose text

variable {why : Refusal}

theorem bind_eq_error_iff {ε α β : Type} {x : Except ε α} {f : α → Except ε β} {e : ε} :
    x >>= f = .error e ↔ x = .error e ∨ ∃ a, x = .ok a ∧ f a = .error e := by
  cases x <;> simp [bind, Except.bind]

theorem cellOf_error {n : Nat} {v : Json} (h : cellOf n v = .error why) :
    why.IsRejection ∨ why.ComesOf v := by
  cases v with
  | int m =>
    simp only [cellOf] at h
    split at h
    · cases h
    · rename_i large
      cases h
      exact .inr ⟨m, rfl, by simpa using large⟩
  | loose text =>
    cases h
    exact .inr rfl
  | real x => cases x <;> cases h
  | list items =>
    cases h
    exact .inl ⟨_, rfl⟩
  | object fields =>
    cases h
    exact .inl ⟨_, rfl⟩
  | _ => cases h

/-- A value that is no truth value is rejected, whatever it is. -/
theorem truthValue_error {v : Json} (h : truthValue v = .error why) : why.IsRejection := by
  unfold truthValue at h
  repeat' split at h
  all_goals cases h
  all_goals exact ⟨_, rfl⟩

theorem not_comesOf_of_truthValue {v w : Json} (h : truthValue v = .ok w) : ¬why.ComesOf w := by
  cases why with
  | rejected reason => exact id
  | tooLarge =>
    rintro ⟨n, rfl, large⟩
    rcases truthValue_ok h with null | zero | one
    · cases null
    · cases zero
      cases large
    · cases one
      cases large
  | unencodable text =>
    rintro rfl
    rcases truthValue_ok h with null | zero | one
    · cases null
    · cases zero
    · cases one

theorem addRow_error {ρ : Type} {sameKey : ρ → ρ → Bool} {key : List (Table × String)}
    {rows : List ρ} {row : ρ} (h : addRow sameKey key rows row = .error why) :
    why.IsRejection := by
  unfold addRow at h
  split at h <;> cases h
  exact ⟨_, rfl⟩

section Columns

variable {χ : Type} {kind : χ → ColumnKind} {given checked : Given χ}

theorem checkTruths_error (h : checkTruths kind given = .error why) : why.IsRejection := by
  induction given with
  | nil => cases h
  | cons x rest ih =>
    obtain ⟨k, v⟩ := x
    by_cases boolean : kind k = .boolean
    · simp only [checkTruths, boolean, if_true, bind_eq_error_iff] at h
      rcases h with value | ⟨w, -, later | ⟨more, -, done⟩⟩
      · exact truthValue_error value
      · exact ih later
      · cases done
    · simp only [checkTruths, boolean, if_false, bind_eq_error_iff] at h
      rcases h with value | ⟨w, -, later | ⟨more, -, done⟩⟩
      · cases value
      · exact ih later
      · cases done

/-- Values that give no cells are rejected, or hold one that fits none. -/
theorem cellsFrom_error {n : Nat} (h : cellsFrom kind n given = .error why) :
    why.IsRejection ∨ ∃ x ∈ given, why.ComesOf x.2 := by
  induction given generalizing n with
  | nil => cases h
  | cons x rest ih =>
    obtain ⟨k, v⟩ := x
    simp only [cellsFrom, bind_eq_error_iff] at h
    rcases h with value | ⟨cell, -, later | ⟨more, -, done⟩⟩
    · exact (cellOf_error value).imp_right fun comes => ⟨(k, v), .head _, comes⟩
    · refine (ih later).imp_right ?_
      rintro ⟨x, member, comes⟩
      exact ⟨x, .tail _ member, comes⟩
    · cases done

/-- A value that fits no cell was given so: a truth value never is one. -/
theorem exists_comesOf_of_checkTruths (h : checkTruths kind given = .ok checked)
    (unfit : ∃ x ∈ checked, why.ComesOf x.2) : ∃ x ∈ given, why.ComesOf x.2 := by
  obtain ⟨y, member, comes⟩ := unfit
  have related := checkTruths_ok h
  clear h
  induction related with
  | nil => cases member
  | @cons x z xs zs first _ ih =>
    rcases List.mem_cons.1 member with rfl | later
    · refine ⟨x, .head _, ?_⟩
      have made := first.2
      unfold Checked at made
      split at made
      · exact absurd comes (not_comesOf_of_truthValue made)
      · rwa [made]
    · obtain ⟨x, member, comes⟩ := ih later
      exact ⟨x, .tail _ member, comes⟩

end Columns

/-! ## Inserts -/

theorem not_comesOf_default {c : RunColumn} {v : Json} (default : c.default? = some v) :
    ¬why.ComesOf v := by
  cases why with
  | rejected reason => exact id
  | tooLarge =>
    rintro ⟨n, rfl, large⟩
    cases c <;> cases default
    all_goals cases large
  | unencodable text =>
    rintro rfl
    cases c <;> cases default

/-- The columns of a run are given values of its attributes, and defaults, which fit. -/
theorem exists_comesOf_of_givenRun {attributes : Json.Fields}
    (unfit : ∃ x ∈ givenRun attributes, why.ComesOf x.2) :
    ∃ v ∈ attributes.map Prod.snd, why.ComesOf v := by
  obtain ⟨⟨c, v⟩, member, comes⟩ := unfit
  obtain ⟨k, -, given⟩ := List.mem_filterMap.1 member
  split at given
  · rename_i w found
    cases given
    exact ⟨v, List.mem_map_of_mem (Json.Fields.mem_of_get? found), comes⟩
  · obtain ⟨w, default, same⟩ := Option.map_eq_some_iff.1 given
    cases same
    exact absurd comes (not_comesOf_default default)

variable {s t : Store}

theorem insertRun_error {attributes : Json.Fields} (h : s.insertRun attributes = .error why) :
    why.IsRejection ∨ ∃ v ∈ attributes.map Prod.snd, why.ComesOf v := by
  unfold insertRun at h
  by_cases unknown : unknownNames attributes = []
  · simp only [unknown, ne_eq, not_true_eq_false, if_false, bind_eq_error_iff] at h
    rcases h with truths | ⟨checked, truths, h⟩
    · exact .inl (checkTruths_error truths)
    · cases present : s.runs with
      | none =>
        rw [present] at h
        cases h
        exact .inl ⟨_, rfl⟩
      | some rows =>
        simp only [present, bind_eq_error_iff] at h
        rcases h with cells | ⟨cells, -, h⟩
        · exact (cellsFrom_error cells).imp_right fun unfit =>
            exists_comesOf_of_givenRun (exists_comesOf_of_checkTruths truths unfit)
        · split at h
          · cases h
            exact .inl ⟨_, rfl⟩
          · rcases bind_eq_error_iff.1 h with key | ⟨new, -, done⟩
            · exact .inl (addRow_error key)
            · cases done
  · simp only [ne_eq, unknown, not_false_eq_true, if_true] at h
    cases h
    exact .inl ⟨_, rfl⟩

theorem insertPost_error {id createAt : Json} (h : s.insertPost id createAt = .error why) :
    why.IsRejection ∨ ∃ v ∈ [id, createAt], why.ComesOf v := by
  unfold insertPost at h
  cases present : s.posts with
  | none =>
    rw [present] at h
    cases h
    exact .inl ⟨_, rfl⟩
  | some rows =>
    simp only [present, bind_eq_error_iff] at h
    rcases h with cells | ⟨cells, -, h⟩
    · simpa using cellsFrom_error cells
    · split at h
      · cases h
        exact .inl ⟨_, rfl⟩
      · rcases bind_eq_error_iff.1 h with key | ⟨new, -, done⟩
        · exact .inl (addRow_error key)
        · cases done

theorem insertLink_error {deferred : Bool} {incident post : Json}
    (h : s.insertLink deferred incident post = .error why) :
    why.IsRejection ∨ ∃ v ∈ [incident, post], why.ComesOf v := by
  unfold insertLink at h
  cases present : s.links with
  | none =>
    rw [present] at h
    cases h
    exact .inl ⟨_, rfl⟩
  | some rows =>
    simp only [present, bind_eq_error_iff] at h
    rcases h with cells | ⟨cells, -, h⟩
    · simpa using cellsFrom_error cells
    · split at h
      · cases h
        exact .inl ⟨_, rfl⟩
      · rcases bind_eq_error_iff.1 h with key | ⟨new, -, h⟩
        · exact .inl (addRow_error key)
        · split at h
          · cases h
            exact .inl ⟨_, rfl⟩
          · cases h

/-- An insert that adds no row is rejected, or was given a value that fits no cell. -/
theorem insert_error {step : WriteStep} (h : s.insert step = .error why) :
    why.IsRejection ∨ ∃ v ∈ step.values, why.ComesOf v := by
  cases step with
  | run attributes => exact insertRun_error h
  | post id createAt => exact insertPost_error h
  | link incident postId => exact insertLink_error h
  | deferLinks => cases h
  | giveUp f => cases h

theorem Refuses.comesOf {steps : List WriteStep} {step : WriteStep}
    (refuses : Refuses s steps step why) :
    why.IsRejection ∨ ∃ v ∈ step.values, why.ComesOf v := by
  induction refuses with
  | here refused => exact insert_error refused
  | later _ _ ih => exact ih

/-! ## Units -/

/-- A step that is an insert, in a scope that checks links at once: the table counts as written to,
or the failure tells of the table and of why no row was added. -/
theorem step_of_table? {scope : Scope} {step : WriteStep} {table : Table}
    (atOnce : scope.deferred = false) (into : step.table? = some table) :
    (∃ next, scope.step step = .ok next ∧ scope.store.insert step = .ok next.store ∧
      next.deferred = false) ∨
    ∃ why, scope.step step = .error (why.failure table) ∧ scope.store.insert step = .error why := by
  have cases_inserted : ∀ result : Except Refusal Store,
      (∃ next, scope.inserted table result = .ok next ∧ result = .ok next.store ∧
        next.deferred = false) ∨
      ∃ why, scope.inserted table result = .error (why.failure table) ∧ result = .error why := by
    intro result
    rcases result with why | t
    · cases why <;> exact .inr ⟨_, rfl, rfl⟩
    · exact .inl ⟨_, rfl, rfl, atOnce⟩
  cases step with
  | run attributes => cases into; exact cases_inserted _
  | post id createAt => cases into; exact cases_inserted _
  | link incident postId =>
    cases into
    rw [Scope.step, atOnce]
    exact cases_inserted _
  | deferLinks => cases into
  | giveUp f => cases into

/-- Inserts in turn, none of whose failures is caught: all add their rows, or the first one that
adds none ends them with its failure. -/
theorem runAll_inserts {steps : List WriteStep} (inserts : ∀ step ∈ steps, step.table? ≠ none)
    {scope : Scope} (atOnce : scope.deferred = false) :
    (∃ last, (scope.runAll (steps.map fun step => (step, false))).2 = .ok last ∧
      last.deferred = false ∧ ∀ step why, ¬Refuses scope.store steps step why) ∨
    ∃ step table why, (scope.runAll (steps.map fun step => (step, false))).2 =
        .error (why.failure table) ∧ step.table? = some table ∧
      Refuses scope.store steps step why := by
  induction steps generalizing scope with
  | nil => exact .inl ⟨scope, rfl, atOnce, fun _ _ refuses => by cases refuses⟩
  | cons step rest ih =>
    obtain ⟨table, into⟩ := Option.ne_none_iff_exists'.1 (inserts step (.head _))
    rcases step_of_table? atOnce into with ⟨next, made, added, deferred⟩ | ⟨why, failed, refused⟩
    · have run : (scope.runAll ((step :: rest).map fun step => (step, false))).2 =
          (next.runAll (rest.map fun step => (step, false))).2 := by
        simp [Scope.runAll, made]
      rw [run]
      rcases ih (fun later member => inserts later (.tail _ member)) deferred with
        ⟨last, ended, late, none⟩ | ⟨refused, table', why, ended, into', refuses⟩
      · refine .inl ⟨last, ended, late, fun other why refuses => ?_⟩
        cases refuses with
        | here refused => rw [added] at refused; cases refused
        | later added' refuses =>
          rw [added] at added'
          cases added'
          exact none _ _ refuses
      · exact .inr ⟨refused, table', why, ended, into', .later added refuses⟩
    · refine .inr ⟨step, table, why, ?_, into, .here refused⟩
      simp [Scope.runAll, failed]

theorem table?_ne_none_of_mem_steps (w : Writing) : ∀ step ∈ w.steps, step.table? ≠ none := by
  cases w with
  | runWithPost attributes postId createAt =>
    cases given : Writing.given postId <;> simp [Writing.steps, given, WriteStep.table?]
  | _ => simp [Writing.steps, WriteStep.table?]

/-- A unit ends well, each of its inserts having added its row, or it fails with the first insert
that adds none: the store rejects that insert, and the failure names the table and the reason, or
the insert was given a whole number that no cell has room for, or a text that cannot be encoded. -/
theorem refusals_named (s : Store) (w : Writing) :
    ((∃ t, s.record w = .ok t) ∧ ∀ step why, ¬Refuses s w.steps step why) ∨
    ∃ step table why, Refuses s w.steps step why ∧ step.table? = some table ∧
      ((∃ reason, why = .rejected reason ∧
          s.record w = .error (.persistence table.word reason.message)) ∨
        (why = .tooLarge ∧ (∃ v ∈ step.values, IsTooLarge v) ∧
          s.record w = .error (.foreign .integerTooLarge)) ∨
        ∃ text, why = .unencodable text ∧ .loose text ∈ step.values ∧
          s.record w = .error (.foreign (.unencodable text))) := by
  have start : (Scope.start s).deferred = false := rfl
  rcases runAll_inserts (table?_ne_none_of_mem_steps w) start with
    ⟨last, ended, atOnce, none⟩ | ⟨step, table, why, ended, into, refuses⟩
  · have committed : last.commit = .ok last.store := by simp [Scope.commit, atOnce]
    exact .inl ⟨⟨last.store, by simp [record, write, transaction, ended, committed]⟩, none⟩
  · have failed : s.record w = .error (why.failure table) := by
      simp [record, write, transaction, ended]
    refine .inr ⟨step, table, why, refuses, into, ?_⟩
    rcases refuses.comesOf with ⟨reason, rfl⟩ | ⟨v, given, comes⟩
    · exact .inl ⟨reason, rfl, failed⟩
    · cases why with
      | rejected reason => exact comes.elim
      | tooLarge => exact .inr (.inl ⟨rfl, ⟨v, given, comes⟩, failed⟩)
      | unencodable text =>
        cases comes
        exact .inr (.inr ⟨text, rfl, given, failed⟩)

/-- A post at a time of more than 64 bits gets past, and so does a post with a lone surrogate as its
id. -/
theorem unnamed_of_unfit_values :
    let time : Writing := .post (.text "p") (.int Cell.intBound)
    let surrogate : Writing := .post (.ofCodes [0xD800]) (.int 0)
    ∀ w ∈ [time, surrogate], (∃ f, empty.record w = .error (.foreign f)) ∧
      ¬∃ table reason, empty.record w = .error (.persistence table reason) := by
  intro time surrogate
  have past {w : Writing} {f : Foreign} (failed : empty.record w = .error (.foreign f)) :
      (∃ f, empty.record w = .error (.foreign f)) ∧
        ¬∃ table reason, empty.record w = .error (.persistence table reason) := by
    refine ⟨⟨f, failed⟩, ?_⟩
    rintro ⟨table, reason, named⟩
    rw [failed] at named
    cases named
  have large : empty.record time = .error (.foreign .integerTooLarge) := rfl
  have lone : empty.record surrogate = .error (.foreign (.unencodable ⟨[0xD800], by decide⟩)) :=
    rfl
  simp only [List.forall_mem_cons]
  exact ⟨past large, past lone, List.forall_mem_nil _⟩

end Store

end IncidentBoard
