import Mathlib.Logic.Relation
import IncidentBoard.Proofs.Paging.Count
import IncidentBoard.Proofs.Query.Change
import IncidentBoard.Proofs.Screen.Parts

/-!
# Turning pages

Where the pager leads by presses of the buttons that it shows enabled. With several pages it leads
to every page before the present one and to every page that there is, the present one past the end
or not. With one page there are no buttons, so a page past its end is not left.

## Main definitions

* `Pager.Press`, `Pager.press_iff` — a press, and the pages that presses ask for.
* `Pager.Turned`, `Pager.Leads` — queries that presses lead to.
* `Pager.pager_leads` — the pages that are reached.
* `Pager.stuck_past_only_page` — pages that are not reached.
-/

namespace IncidentBoard.Screen.Pager

variable {page perPage next : Nat} {total : Int}

/-! ## Presses -/

/-- A run of the pager on its own. -/
def alone (page perPage : Nat) (total : Int) (g : Gestures) : Except Stop Nat × Run Unit :=
  render page perPage total ⟨(), [], 0, g⟩

/-- A press of a button that the pager shows enabled, and the page that it asks for. -/
def Press (page perPage : Nat) (total : Int) (next : Nat) : Prop :=
  ∃ box b, (box, .button b) ∈ (alone page perPage total .none).2.shown ∧ b.enabled = true ∧
    (alone page perPage total ⟨some b.handle, []⟩).1 = .ok next

theorem enabled_previousButton (p : Pager) : p.previousButton.enabled = p.hasPrevious := by
  cases p with | mk bounds hasPrevious hasNext => cases hasPrevious <;> rfl

theorem enabled_nextButton (p : Pager) : p.nextButton.enabled = p.hasNext := by
  cases p with | mk bounds hasPrevious hasNext => cases hasNext <;> rfl

theorem columns_run {ω : Type} (split : Split) (run : Run ω) :
    Render.columns split run = (.ok (Box.column (run.groups + 1)),
      ⟨run.state, run.shown ++ [(.main, .columns split)], run.groups + 1, run.gestures⟩) := rfl

theorem showIn_run {ω : Type} (box : Box) (e : Element) (run : Run ω) :
    Render.showIn box e run = (.ok (), { run with shown := run.shown ++ [(box, e)] }) := rfl

/-- What a pager shows to a user who presses nothing, and what it answers. -/
theorem alone_of_some {p : Pager} (offered : of? page perPage total = .ok (some p))
    (g : Gestures) :
    (g.pressed = none → (alone page perPage total g).2.shown =
      [(.main, .columns (.weighted [1, 3, 1])), (.column 1 1, .text .caption (p.caption total)),
        (.column 1 0, .button p.previousButton), (.column 1 2, .button p.nextButton)]) ∧
    (alone page perPage total g).1 = .ok
      (if p.hasPrevious = true ∧ g.pressed = some "page-prev" then page - 1
        else if p.hasNext = true ∧ g.pressed = some "page-next" then page + 1 else page) := by
  have previous : p.previousButton.handle = "page-prev" := rfl
  have following : p.nextButton.handle = "page-next" := rfl
  unfold alone render
  simp only [Render.bind_run, Render.ofExcept_run, offered, Except.mapError, columns_run,
    Render.textIn, showIn_run, Render.press_run, enabled_previousButton, previous]
  by_cases back : p.hasPrevious = true ∧ g.pressed = some "page-prev"
  · simp only [if_pos back]
    exact ⟨fun still => by simp [still] at back, rfl⟩
  · simp only [if_neg back, Bool.false_eq_true, if_false, Render.bind_run, Render.press_run,
      enabled_nextButton, following]
    by_cases forth : p.hasNext = true ∧ g.pressed = some "page-next"
    · simp only [if_pos forth]
      exact ⟨fun still => by simp [still] at forth, rfl⟩
    · simp only [if_neg forth]
      exact ⟨fun _ => rfl, rfl⟩

theorem press_of_some {p : Pager} (offered : of? page perPage total = .ok (some p)) :
    Press page perPage total next ↔
      p.hasPrevious = true ∧ next = page - 1 ∨ p.hasNext = true ∧ next = page + 1 := by
  have shown := (alone_of_some offered .none).1 rfl
  have back : p.hasPrevious = true →
      (alone page perPage total ⟨some p.previousButton.handle, []⟩).1 = .ok (page - 1) :=
    fun offers => by rw [(alone_of_some offered _).2, if_pos ⟨offers, rfl⟩]
  have forth : p.hasNext = true →
      (alone page perPage total ⟨some p.nextButton.handle, []⟩).1 = .ok (page + 1) :=
    fun offers => by
      have other : some p.nextButton.handle ≠ some "page-prev" := by
        change some "page-next" ≠ some "page-prev"
        decide
      rw [(alone_of_some offered _).2, if_neg (fun h => other h.2), if_pos ⟨offers, rfl⟩]
  constructor
  · rintro ⟨box, b, listed, enabled, answer⟩
    have either : b = p.previousButton ∨ b = p.nextButton := by
      rw [shown] at listed
      rcases (by simpa using listed) with ⟨-, rfl⟩ | ⟨-, rfl⟩
      · exact .inl rfl
      · exact .inr rfl
    rcases either with rfl | rfl
    · have offers := p.enabled_previousButton ▸ enabled
      exact .inl ⟨offers, Except.ok.inj (answer.symm.trans (back offers))⟩
    · have offers := p.enabled_nextButton ▸ enabled
      exact .inr ⟨offers, Except.ok.inj (answer.symm.trans (forth offers))⟩
  · rintro (⟨offers, rfl⟩ | ⟨offers, rfl⟩)
    · exact ⟨.column 1 0, p.previousButton, by simp [shown], p.enabled_previousButton ▸ offers,
        back offers⟩
    · exact ⟨.column 1 2, p.nextButton, by simp [shown], p.enabled_nextButton ▸ offers,
        forth offers⟩

theorem exists_pager_of_press (press : Press page perPage total next) :
    ∃ p, of? page perPage total = .ok (some p) := by
  obtain ⟨box, b, listed, -⟩ := press
  unfold alone render at listed
  rw [Render.bind_run, Render.ofExcept_run] at listed
  rcases offered : of? page perPage total with e | _ | p
  · rw [offered] at listed
    cases listed
  · rw [offered] at listed
    cases listed
  · exact ⟨p, rfl⟩

/-- The pager leads one page back or forth, if there are several pages. -/
theorem press_iff {total : Nat} (total_pos : 0 < total) :
    Press page perPage total next ↔ ∃ count, Paging.pageCount perPage total = .ok count ∧
      1 < count ∧ ((next : Int) = page - 1 ∨ (next : Int) = page + 1 ∧ (next : Int) < count) := by
  have offers : of? page perPage total = (Paging.pageCount perPage total).map fun count =>
      if count ≤ 1 then none else
        some ⟨⟨page * perPage + 1, min total ((page + 1) * perPage), count⟩,
          Paging.hasPrevious page, Paging.hasNext page count⟩ := by
    rw [of?, Paging.bounds, if_neg (by omega)]
    cases Paging.pageCount perPage total <;> rfl
  constructor
  · intro press
    obtain ⟨p, offered⟩ := exists_pager_of_press press
    have sides := (press_of_some offered).1 press
    rw [offers] at offered
    obtain ⟨count, counted, several⟩ := Failure.map_eq_ok_iff.1 offered
    split at several
    · cases several
    · cases several
      refine ⟨count, counted, by omega, ?_⟩
      simp only [Paging.hasPrevious, Paging.hasNext, decide_eq_true_eq] at sides
      omega
  · rintro ⟨count, counted, several, sides⟩
    rw [counted, Except.map, if_neg (by omega)] at offers
    refine (press_of_some offers).2 ?_
    simp only [Paging.hasPrevious, Paging.hasNext, decide_eq_true_eq]
    omega

/-! ## Presses in turn -/

/-- A press, and the query that its page leads to. -/
def Turned (reset : Bool) (total : Int) (q r : ListQuery) : Prop :=
  ∃ next needed, Press q.page q.perPage total next ∧
    q.reduce reset (.setPage (.int next)) = .ok ⟨r, needed⟩

/-- Presses, one after the other. -/
def Leads (reset : Bool) (total : Int) : ListQuery → ListQuery → Prop :=
  Relation.ReflTransGen (Turned reset total)

variable {reset : Bool} {q r : ListQuery}

theorem turned_iff : Turned reset total q r ↔
    ∃ next, Press q.page q.perPage total next ∧ r = { q with page := next } := by
  have change (next : Nat) : (Action.setPage (.int next)).change? = some (.page next) := by
    simp [Action.change?, Field.wholeFrom, Field.whole, Except.toOption]
  constructor
  · rintro ⟨next, needed, press, reduced⟩
    obtain ⟨c, changed, transition⟩ := ListQuery.reduce_eq_ok_iff.1 reduced
    obtain rfl : Change.page next = c := by simpa [change] using changed
    exact ⟨next, press, (congrArg Transition.query transition).symm⟩
  · rintro ⟨next, press, rfl⟩
    exact ⟨next, _, press, ListQuery.reduce_eq_ok_iff.2 ⟨_, change next, rfl⟩⟩

section Several

variable {total : Nat} {count : Int}

theorem leads_back (total_pos : 0 < total)
    (counted : Paging.pageCount q.perPage total = .ok count) (several : 1 < count) (k d : Nat) :
    Leads reset total { q with page := k + d } { q with page := k } := by
  induction d with
  | zero => exact .refl
  | succ d ih =>
    refine .head (turned_iff.2 ⟨k + d, ?_, rfl⟩) ih
    exact (press_iff total_pos).2 ⟨count, counted, several, .inl (by push_cast; ring)⟩

theorem leads_forth (total_pos : 0 < total)
    (counted : Paging.pageCount q.perPage total = .ok count) (several : 1 < count) (k d : Nat)
    (inside : (k + d : Nat) < count) :
    Leads reset total { q with page := k } { q with page := k + d } := by
  induction d with
  | zero => exact .refl
  | succ d ih =>
    refine .tail (ih (by omega)) (turned_iff.2 ⟨k + (d + 1), ?_, rfl⟩)
    exact (press_iff total_pos).2 ⟨count, counted, several, .inr ⟨by push_cast; ring, inside⟩⟩

/-- The pages that a pager of several pages leads to: all those before, and all that there are. -/
theorem page_of_leads (total_pos : 0 < total) (leads : Leads reset total q r) :
    r = q ∨ r = { q with page := r.page } ∧ ∃ count, Paging.pageCount q.perPage total = .ok count ∧
      1 < count ∧ (r.page ≤ q.page ∨ (r.page : Int) < count) := by
  induction leads with
  | refl => exact .inl rfl
  | @tail s r _ turned ih =>
    obtain ⟨next, press, rfl⟩ := turned_iff.1 turned
    obtain ⟨count, counted, several, sides⟩ := (press_iff total_pos).1 press
    have same : s = { q with page := s.page } := by
      rcases ih with rfl | ⟨same, -⟩
      · rfl
      · exact same
    have perPage : s.perPage = q.perPage := by rw [same]
    have before : s.page ≤ q.page ∨ (s.page : Int) < count := by
      rcases ih with rfl | ⟨-, count', counted', -, before⟩
      · exact .inl le_rfl
      · rw [perPage, counted'] at counted
        exact Except.ok.inj counted ▸ before
    refine .inr ⟨by rw [same], count, perPage ▸ counted, several, ?_⟩
    dsimp only
    omega

theorem leads_iff_count (total_pos : 0 < total) (k : Nat) :
    Leads reset total q { q with page := k } ↔ k = q.page ∨
      ∃ count, Paging.pageCount q.perPage total = .ok count ∧ 1 < count ∧
        (k ≤ q.page ∨ (k : Int) < count) := by
  constructor
  · intro leads
    rcases page_of_leads total_pos leads with same | ⟨-, several⟩
    · exact .inl (congrArg ListQuery.page same)
    · exact .inr several
  · rintro (rfl | ⟨count, counted, several, inside⟩)
    · exact .refl
    · have side : k ≤ q.page ∨ q.page ≤ k ∧ (k : Int) < count := by omega
      rcases side with below | ⟨above, inside⟩
      · obtain ⟨d, far⟩ := Nat.exists_eq_add_of_le below
        have leads : Leads reset total { q with page := k + d } _ :=
          leads_back total_pos counted several k d
        rwa [← far] at leads
      · obtain ⟨d, rfl⟩ := Nat.exists_eq_add_of_le above
        exact leads_forth total_pos counted several q.page d inside

/-- Up to the bound of mantissas, the pages that there are begin before the end. -/
theorem exists_pageCount (total_pos : 0 < total) (total_le : total ≤ 2 ^ 53) :
    ∃ count, Paging.pageCount q.perPage total = .ok count ∧ (1 < count ↔ q.perPage < total) ∧
      (1 < count → ∀ k : Nat, (k : Int) < count ↔ k * q.perPage < total) := by
  rcases Nat.lt_or_ge q.perPage total with several | single
  · have begins (k : Nat) : k < total ⌈/⌉ q.perPage ↔ k * q.perPage < total :=
      Paging.lt_ceilDiv_iff q.perPage_pos k
    have more : (1 : Int) < (total ⌈/⌉ q.perPage : Nat) := by
      exact_mod_cast (begins 1).2 (by omega)
    exact ⟨_, Paging.pageCount_eq q.perPage_pos (by omega) total_pos total_le,
      by simp [several, more], fun _ k => by exact_mod_cast begins k⟩
  · obtain ⟨count, counted, one⟩ := Paging.pageCount_le_one total_pos single total_le
    exact ⟨count, counted, by omega, by omega⟩

end Several

/-- The presses of the pager lead to every page before, and to every page that there is, if there
are several; a page past the end of one page of items is not left. -/
theorem pager_leads (reset : Bool) (q : ListQuery) {total : Nat} (total_pos : 0 < total) :
    (∀ k, Leads reset total q { q with page := k } ↔ k = q.page ∨
      ∃ count, Paging.pageCount q.perPage total = .ok count ∧ 1 < count ∧
        (k ≤ q.page ∨ (k : Int) < count)) ∧
    (total ≤ 2 ^ 53 → ∀ k, k * q.perPage < total →
      (Leads reset total q { q with page := k } ↔ k = q.page ∨ q.perPage < total)) ∧
    ∀ r, Turned reset total q r → r = { q with page := r.page } ∧
      ((r.page : Int) = q.page - 1 ∨ (r.page : Int) = q.page + 1) ∧
      (total ≤ 2 ^ 53 → q.page * q.perPage < total → r.page * r.perPage < total) := by
  refine ⟨leads_iff_count total_pos, fun total_le k inside => ?_, fun r turned => ?_⟩
  · obtain ⟨count, counted, several, begins⟩ := exists_pageCount (q := q) total_pos total_le
    rw [leads_iff_count total_pos, ← several]
    refine or_congr_right ⟨fun ⟨count', counted', more, _⟩ => ?_, fun more => ?_⟩
    · exact Except.ok.inj (counted.symm.trans counted') ▸ more
    · exact ⟨count, counted, more, .inr ((begins more k).2 inside)⟩
  · obtain ⟨next, press, rfl⟩ := turned_iff.1 turned
    obtain ⟨count, counted, more, sides⟩ := (press_iff total_pos).1 press
    refine ⟨rfl, by dsimp only; omega, fun total_le inside => ?_⟩
    obtain ⟨count', counted', -, begins⟩ := exists_pageCount (q := q) total_pos total_le
    obtain rfl := Except.ok.inj (counted.symm.trans counted')
    have here := (begins more q.page).2 inside
    exact (begins more next).1 (by omega)

/-- From past the end of forty incidents, fifteen to a page, the pager leads back to the last page,
and not beyond it. -/
theorem pager_leads_of_page_past_end :
    let q := ListQuery.first "t1" 15 (by decide)
    0 < 40 ∧ Leads true 40 { q with page := 7 } { q with page := 2 } ∧
      ¬Turned true 40 { q with page := 2 } { q with page := 3 } := by
  intro q
  have past := pager_leads true { q with page := 7 } (by decide : 0 < 40)
  have last := pager_leads true { q with page := 2 } (by decide : 0 < 40)
  refine ⟨by decide, (past.2.1 (by decide) 2 (by decide)).2 (.inr (by decide)), fun turned => ?_⟩
  obtain ⟨-, -, stays⟩ := last.2.2 _ turned
  exact absurd (stays (by decide) (by decide)) (by decide)

/-- Past the end of five incidents, fifteen to a page, there is no way back. Nor is there one to the
last of pages whose number has more than 53 bits. -/
theorem stuck_past_only_page :
    let q := ListQuery.first "t1" 15 (by decide)
    let single := ListQuery.first "t1" 1 (by decide)
    (0 < 5 ∧ 0 * q.perPage < 5 ∧ ¬Leads true 5 { q with page := 1 } { q with page := 0 }) ∧
      2 ^ 53 * single.perPage < 2 ^ 53 + 1 ∧
        ¬Leads true (2 ^ 53 + 1 : Nat) single { single with page := 2 ^ 53 } := by
  intro q single
  refine ⟨⟨by decide, by decide, fun leads => ?_⟩, by decide, fun leads => ?_⟩
  · have counted : Paging.pageCount 15 (5 : Nat) = .ok 1 :=
      Paging.pageCount_of_ceil? (by decide) (by decide +kernel)
    rcases (leads_iff_count (by decide) 0).1 leads with here | ⟨count, counted', more, -⟩
    · cases here
    · cases counted.symm.trans counted'
      exact absurd more (by decide)
  · have counted : Paging.pageCount 1 (2 ^ 53 + 1 : Nat) = .ok (2 ^ 53) :=
      Paging.pageCount_of_ceil? (by decide) (by decide +kernel)
    rcases (leads_iff_count (by decide) (2 ^ 53)).1 leads with here | ⟨count, counted', -, inside⟩
    · exact absurd here (by decide)
    · cases counted.symm.trans counted'
      exact absurd inside (by decide)

end IncidentBoard.Screen.Pager
