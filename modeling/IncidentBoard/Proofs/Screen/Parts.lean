import IncidentBoard.Screen.Pager

/-!
# Parts of a run

What a part of a run does to the state that it acts on, where the user left everything that it shows
as it is. A part that ends early, at a failure or for another run, leaves a state too. The rules
follow the way parts are put together; as nothing shown is taken back, what is left at the end was
left on the way.

## Main definitions

* `Gestures.Leaves` — the user left an element as it is shown.
* `Render.Grows` — a part of a run takes back nothing that was shown.
* `Render.Meets` — a part of a run, with what holds before it, after it and where it ends early.
* `Render.Meets.bind`, `Render.Meets.forM`, `Render.Meets.skip` — parts in turn, and branches that
  only a gesture leads to.
* `Pager.render_meets` — a pager that is not pressed asks for the page that it is on.
-/

namespace IncidentBoard.Screen

/-- The user left an element as it is shown: a widget answers its value, a button is not pressed. -/
def Gestures.Leaves (g : Gestures) : Element → Prop
  | .textInput label value => Render.textOf value (g.entered.get? label) = value
  | .numberInput label _ _ value => Render.wholeOf value (g.entered.get? label) = value
  | .checkbox label value => Render.truthOf value (g.entered.get? label) = value
  | .choice c => Render.indexOf c.options.length c.index (g.entered.get? c.label) = c.index
  | .button b => g.pressed ≠ some b.handle
  | _ => True

instance (g : Gestures) : ∀ e, Decidable (g.Leaves e)
  | .textInput _ _ => inferInstanceAs (Decidable (_ = _))
  | .numberInput _ _ _ _ => inferInstanceAs (Decidable (_ = _))
  | .checkbox _ _ => inferInstanceAs (Decidable (_ = _))
  | .choice _ => inferInstanceAs (Decidable (_ = _))
  | .button _ => inferInstanceAs (Decidable (_ ≠ _))
  | .navigation _ | .text _ _ | .metric _ _ | .divider | .columns _ | .rerun =>
    inferInstanceAs (Decidable True)

/-- A user who does nothing leaves everything as it is. -/
theorem Gestures.none_leaves (e : Element) : Gestures.none.Leaves e := by
  cases e <;> simp [Leaves, none, Render.textOf, Render.wholeOf, Render.truthOf, Render.indexOf,
    Json.Fields.get?]

namespace Render

variable {ω α β : Type}

/-! ## What parts come to -/

theorem bind_run (m : Render ω α) (f : α → Render ω β) (run : Run ω) :
    (m >>= f) run =
      match m run with
      | (.ok a, after) => f a after
      | (.error stop, after) => (.error stop, after) := by
  change (match m run with | (outcome, after) => ExceptT.bindCont f outcome after) = _
  rcases m run with ⟨a | stop, after⟩ <;> rfl

theorem ofExcept_run (x : Except Failure α) (run : Run ω) :
    Render.ofExcept x run = (x.mapError Stop.failed, run) := by
  cases x <;> rfl

theorem act_run (f : ω → Except Failure α × ω) (run : Run ω) :
    Render.act f run =
      ((f run.state).1.mapError Stop.failed, { run with state := (f run.state).2 }) :=
  ofExcept_run (f run.state).1 { run with state := (f run.state).2 }

theorem update_run (f : ω → Except Failure ω) (run : Run ω) :
    Render.update f run =
      match f run.state with
      | .ok s => (.ok (), { run with state := s })
      | .error e => (.error (.failed e), run) := by
  change (Render.ofExcept (f run.state) >>= Render.setState) run = _
  cases outcome : f run.state <;> rfl

theorem press_run (box : Box) (b : Button) (run : Run ω) :
    Render.press box b run =
      (if b.enabled ∧ run.gestures.pressed = some b.handle then
        (.ok true, ⟨run.state, run.shown ++ [(box, .button b)], run.groups,
          { run.gestures with pressed := Option.none }⟩)
      else (.ok false, { run with shown := run.shown ++ [(box, .button b)] })) := by
  change (if b.enabled ∧ run.gestures.pressed = some b.handle then _ else _ : Render ω Bool) _ = _
  split <;> rfl

/-! ## What stays shown -/

/-- All that was shown before a part of a run is shown after it. -/
def Grows (m : Render ω α) : Prop := ∀ run, run.shown <+: (m run).2.shown

namespace Grows

variable {m : Render ω α} {f : α → Render ω β}

theorem of_shown_eq (same : ∀ run, (m run).2.shown = run.shown) : Grows m :=
  fun run => ⟨[], by rw [same, List.append_nil]⟩

theorem pure (a : α) : Grows (Pure.pure a : Render ω α) := of_shown_eq fun _ => rfl

theorem bind (first : Grows m) (second : ∀ a, Grows (f a)) : Grows (m >>= f) := by
  intro run
  have before := first run
  rw [bind_run]
  cases parts : m run with
  | mk outcome after =>
    rw [parts] at before
    cases outcome with
    | ok a => exact before.trans (second a after)
    | error stop => exact before

theorem ofExcept (x : Except Failure α) : Grows (Render.ofExcept x : Render ω α) :=
  of_shown_eq fun run => by rw [ofExcept_run]

theorem act (f : ω → Except Failure α × ω) : Grows (Render.act f) :=
  of_shown_eq fun run => by rw [act_run]

theorem update (f : ω → Except Failure ω) : Grows (Render.update f) := of_shown_eq fun run => by
  rw [update_run]
  split <;> rfl

theorem showIn (box : Box) (e : Element) : Grows (Render.showIn box e : Render ω Unit) :=
  fun _ => List.prefix_append _ _

theorem again : Grows (Render.again : Render ω α) := fun _ => List.prefix_append _ _

theorem press (box : Box) (b : Button) : Grows (Render.press box b : Render ω Bool) := fun run => by
  rw [press_run]
  split <;> exact List.prefix_append _ _

end Grows

/-! ## What parts meet -/

/-- A part of a run with some gestures, which leave what it shows: where `P` holds of the state
before, `Q` holds of its value and of the state after it, or `E` of the state at which it ends
early. The gestures stay, and so does what was shown. -/
structure Meets (g : Gestures) (P : ω → Prop) (m : Render ω α) (Q : α → ω → Prop) (E : ω → Prop) :
    Prop where
  grows : Grows m
  ends : ∀ run : Run ω, run.gestures = g → P run.state →
    (∀ x ∈ (m run).2.shown, g.Leaves x.2) →
      (m run).2.gestures = g ∧
        match (m run).1 with
        | .ok a => Q a (m run).2.state
        | .error _ => E (m run).2.state

variable {g : Gestures} {P P' : ω → Prop} {Q Q' : α → ω → Prop} {E : ω → Prop} {m : Render ω α}

namespace Meets

theorem imp (meets : Meets g P m Q E) (before : ∀ s, P' s → P s) (after : ∀ a s, Q a s → Q' a s) :
    Meets g P' m Q' E := by
  refine ⟨meets.grows, fun run gestures holds left => ?_⟩
  obtain ⟨kept, ended⟩ := meets.ends run gestures (before _ holds) left
  refine ⟨kept, ?_⟩
  cases outcome : (m run).1 with
  | ok a => exact after _ _ (by simpa [outcome] using ended)
  | error stop => simpa [outcome] using ended

theorem pure (a : α) : Meets g (Q a) (Pure.pure a) Q E :=
  ⟨.pure a, fun _ gestures holds _ => ⟨gestures, holds⟩⟩

/-- Nothing more is done. -/
theorem done : Meets g P (Pure.pure () : Render ω Unit) (fun _ => P) E :=
  Meets.pure (Q := fun _ => P) ()

theorem bind {f : α → Render ω β} {R : α → ω → Prop} {Q : β → ω → Prop} (first : Meets g P m R E)
    (second : ∀ a, Meets g (R a) (f a) Q E) : Meets g P (m >>= f) Q E := by
  refine ⟨first.grows.bind fun a => (second a).grows, fun run gestures holds left => ?_⟩
  have once := first.ends run gestures holds
  rw [bind_run] at left ⊢
  cases parts : m run with
  | mk outcome after =>
    rw [parts] at once left
    cases outcome with
    | ok a =>
      -- what the first part showed is shown at the end, and so it was left
      obtain ⟨kept, ended⟩ := once fun x shown => left x (((second a).grows after).subset shown)
      exact (second a).ends after kept ended left
    | error stop => exact once left

/-- A part whose value does not matter, and then another one. -/
theorem andThen {f : Render ω β} {R : ω → Prop} {Q : β → ω → Prop}
    (first : Meets g P m (fun _ => R) E) (second : Meets g R f Q E) :
    Meets g P (m >>= fun _ => f) Q E :=
  first.bind fun _ => second

theorem forM {xs : List β} {f : β → Render ω Unit}
    (each : ∀ x ∈ xs, Meets g P (f x) (fun _ => P) E) : Meets g P (xs.forM f) (fun _ => P) E := by
  induction xs with
  | nil => exact done
  | cons x rest ih =>
    exact (each x (.head _)).andThen (ih fun y hy => each y (.tail _ hy))

/-- A part that is never come to. -/
theorem never (grows : Grows m) (unmet : ∀ s, ¬P s) : Meets g P m Q E :=
  ⟨grows, fun _ _ holds => (unmet _ holds).elim⟩

/-- A branch that is not taken. -/
theorem skip {p : Prop} [Decidable p] {taken rest : Render ω α} (grows : Grows taken)
    (other : Meets g P rest Q E) :
    Meets g (fun s => ¬p ∧ P s) (if p then taken else rest) Q E := by
  split
  · exact never grows fun _ holds => absurd ‹p› holds.1
  · exact other.imp (fun _ holds => holds.2) fun _ _ => id

/-! ## State and failures -/

theorem state : Meets g P Render.state (fun s t => t = s ∧ P t) E :=
  ⟨fun _ => List.prefix_rfl, fun _ gestures holds _ => ⟨gestures, rfl, holds⟩⟩

/-- What follows reads the state, and it does not matter what it is. -/
theorem stateThen {f : ω → Render ω β} {Q : β → ω → Prop} (rest : ∀ s, Meets g P (f s) Q E) :
    Meets g P (Render.state >>= f) Q E :=
  state.bind fun s => (rest s).imp (fun _ holds => holds.2) fun _ _ => id

theorem ofExcept {x : Except Failure α} (early : ∀ s e, x = .error e → P s → E s) :
    Meets g P (Render.ofExcept x) (fun _ => P) E := by
  refine ⟨.ofExcept x, fun run gestures holds _ => ?_⟩
  rw [ofExcept_run]
  cases outcome : x with
  | ok a => exact ⟨gestures, holds⟩
  | error e => exact ⟨gestures, early _ e outcome holds⟩

theorem act {f : ω → Except Failure α × ω} (after : ∀ s a, P s → (f s).1 = .ok a → Q a (f s).2)
    (early : ∀ s e, P s → (f s).1 = .error e → E (f s).2) : Meets g P (Render.act f) Q E := by
  refine ⟨.act f, fun run gestures holds _ => ?_⟩
  rw [act_run]
  cases outcome : (f run.state).1 with
  | ok a => exact ⟨gestures, after _ a holds outcome⟩
  | error e => exact ⟨gestures, early _ e holds outcome⟩

/-- A change of the state that never fails. -/
theorem update {f : ω → Except Failure ω} (after : ∀ s, P s → ∃ t, f s = .ok t ∧ P' t) :
    Meets g P (Render.update f) (fun _ => P') E := by
  refine ⟨.update f, fun run gestures holds _ => ?_⟩
  obtain ⟨t, outcome, ended⟩ := after run.state holds
  rw [update_run, outcome]
  exact ⟨gestures, ended⟩

/-! ## Elements and widgets -/

theorem showIn (box : Box) (e : Element) : Meets g P (Render.showIn box e) (fun _ => P) E :=
  ⟨.showIn box e, fun _ gestures holds _ => ⟨gestures, holds⟩⟩

theorem textIn (box : Box) (kind : TextKind) (content : String) :
    Meets g P (Render.textIn box kind content) (fun _ => P) E := showIn _ _

theorem text (kind : TextKind) (content : String) :
    Meets g P (Render.text kind content) (fun _ => P) E := showIn _ _

theorem columns (split : Split) : Meets g P (Render.columns split) (fun _ => P) E :=
  ⟨fun _ => List.prefix_append _ _, fun _ gestures holds _ => ⟨gestures, holds⟩⟩

theorem textInput (box : Box) (label value : String) :
    Meets g P (Render.textInput box label value) (fun term s => term = value ∧ P s) E := by
  refine ⟨fun _ => List.prefix_append _ _, fun run gestures holds left => ?_⟩
  subst gestures
  exact ⟨rfl, left _ (List.mem_append_right _ (.head _)), holds⟩

theorem choose (box : Box) (c : Choice) :
    Meets g P (Render.choose box c) (fun index s => index = c.index ∧ P s) E := by
  refine ⟨fun _ => List.prefix_append _ _, fun run gestures holds left => ?_⟩
  subst gestures
  exact ⟨rfl, left _ (List.mem_append_right _ (.head _)), holds⟩

theorem press (box : Box) (b : Button) :
    Meets g P (Render.press box b) (fun pressed s => ¬pressed = true ∧ P s) E := by
  refine ⟨.press box b, fun run gestures holds left => ?_⟩
  subst gestures
  rw [press_run] at left ⊢
  split at left
  next pressed => exact absurd pressed.2 (left _ (List.mem_append_right _ (.head _)))
  next still => simpa [still] using holds

end Meets

end Render

/-! ## The pager -/

/-- A pager that is not pressed asks for the page that it is on. -/
theorem Pager.render_meets {ω : Type} {g : Gestures} {P : ω → Prop} (page perPage : Nat)
    (total : Int) :
    Render.Meets g P (Pager.render page perPage total) (fun next s => next = page ∧ P s) P := by
  unfold Pager.render
  refine (Render.Meets.ofExcept fun _ _ _ => id).bind fun offered => ?_
  have stays : Render.Meets g P (pure page) (fun next s => next = page ∧ P s) P :=
    (Render.Meets.pure page).imp (fun _ holds => ⟨rfl, holds⟩) fun _ _ => id
  cases offered with
  | none => exact stays
  | some p =>
    refine (Render.Meets.columns _).bind fun column => (Render.Meets.textIn _ _ _).andThen ?_
    refine (Render.Meets.press _ _).bind fun back => .skip (.pure _) ?_
    exact (Render.Meets.press _ _).bind fun forth => .skip (.pure _) stays

end IncidentBoard.Screen
