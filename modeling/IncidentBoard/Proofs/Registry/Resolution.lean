import IncidentBoard.Registry

/-!
# Resolving a category

What a registry can do when it is asked for a provider: hand out the one that is kept, make one of
the kind that the settings choose and keep it, or fail and stay as it is.

## Main definitions

* `Category.override`, `Settings.mode_word` — the mode of a category.
* `Instance.kind?`, `Registry.Provides` — the kind of a provider, and providers as settings choose.
* `Registry.get_ok`, `Registry.get_error_iff` — everything that a resolution can do.
* `Registry.Adds` — the registry with more providers.
* `Registry.Sound` — the providers kept are those chosen, with numbers of their own.
* `Registry.refreshed`, `Registry.lookup_refresh` — providers whose stores changed in their files.
-/

namespace IncidentBoard

/-- The mode that the settings give to a category alone. -/
def Category.override (s : Settings) : Category → String
  | .incidents => s.incidentsMode
  | .users => s.usersMode

/-- The mode of a category is its own, or the global one where it has none. -/
theorem Settings.mode_word (s : Settings) (c : Category) :
    s.mode c.word = if c.override s = "" then s.backstageMode else c.override s := by
  have mode : s.mode c.word = if c.override s ≠ "" then c.override s else s.backstageMode := by
    cases c <;> rfl
  rw [mode, ite_not]

theorem Category.word_of_ofWord? {word : String} {c : Category} (named : ofWord? word = some c) :
    c.word = word := by
  simpa using List.find?_some named

theorem Category.word_injective {c d : Category} (same : c.word = d.word) : c = d := by
  simpa using congrArg ofWord? same

/-- The kind of a provider; one that follows a script is of none. -/
def Instance.kind? : Instance → Option Registry.Kind
  | .incidents (.scenario _) | .users (.scenario _) => some .scenario
  | .incidents (.remote _) | .users (.remote _) => some .remote
  | .incidents (.stored _ _) => some .stored
  | .incidents (.script _ _) | .users (.roster _ _) => none

theorem Instance.kind?_refresh (source : Source) (d : Databases) :
    kind? (.incidents (source.refresh d)) = kind? (.incidents source) := by
  cases source with
  | stored location store => cases location <;> rfl
  | _ => rfl

namespace Registry

variable {r r' : Registry} {w w' : World} {s : Settings} {c d : Category} {h g : Handle}
  {f : Failure}

/-! ## Making a provider -/

/-- A provider of a category, of the kind that is offered under the mode of the category. -/
def Provides (s : Settings) (c : Category) (made : Instance) : Prop :=
  made.category = c ∧ ∃ kind, (kinds c).lookup (s.mode c.word) = some kind ∧
    made.kind? = some kind

theorem openStore_ok {source : Source} (opened : openStore w s = .ok (source, w')) :
    ∃ location store, source = .stored location store := by
  unfold openStore at opened
  cases located : Store.locate s.databaseUrl with
  | error f => simp [located, bind, Except.bind] at opened
  | ok location =>
    simp only [located, bind, Except.bind] at opened
    split at opened
    · cases opened
    · cases opened
      exact ⟨_, _, rfl⟩

/-- Kinds that a category offers. People are not kept in a store. -/
theorem lookup_kinds_users {mode : String} {kind : Kind}
    (offered : (kinds .users).lookup mode = some kind) : kind ≠ .stored := by
  rintro rfl
  simp only [kinds, List.lookup_cons] at offered
  split at offered
  · cases offered
  · split at offered <;> cases offered

/-- What is made is a provider of the category and of the kind asked for, if that is offered. -/
theorem make_ok {mode : String} {kind : Kind} {made : Instance}
    (offered : (kinds c).lookup mode = some kind) (ok : make w s c kind = .ok (made, w')) :
    made.category = c ∧ made.kind? = some kind := by
  cases c with
  | incidents =>
    cases kind with
    | scenario =>
      obtain ⟨p, -, same⟩ := Failure.map_eq_ok_iff.1 ok
      cases same
      exact ⟨rfl, rfl⟩
    | remote =>
      cases ok
      exact ⟨rfl, rfl⟩
    | stored =>
      obtain ⟨⟨source, w⟩, opened, same⟩ := Failure.map_eq_ok_iff.1 ok
      obtain ⟨location, store, rfl⟩ := openStore_ok opened
      cases same
      exact ⟨rfl, rfl⟩
  | users =>
    cases kind with
    | scenario =>
      obtain ⟨p, -, same⟩ := Failure.map_eq_ok_iff.1 ok
      cases same
      exact ⟨rfl, rfl⟩
    | remote =>
      cases ok
      exact ⟨rfl, rfl⟩
    | stored => exact absurd rfl (lookup_kinds_users offered)

/-! ## What a resolution does -/

/-- A resolution hands out the provider that is kept, or makes one and keeps it. -/
theorem get_ok (ok : r.get w c = .ok (h, r', w')) :
    (r.kept.lookup c = some h ∧ r' = r ∧ w' = w) ∨
      r.kept.lookup c = none ∧ Provides r.settings c h.made ∧ h.serial = r.next ∧
        r' = { r with kept := (c, h) :: r.kept, next := r.next + 1 } := by
  unfold get at ok
  cases cached : r.kept.lookup c with
  | some kept =>
    simp only [cached] at ok
    cases ok
    exact .inl ⟨rfl, rfl, rfl⟩
  | none =>
    simp only [cached, resolve] at ok
    split at ok
    · cases ok
    · next kind offered =>
      obtain ⟨⟨made, w⟩, created, same⟩ := Failure.map_eq_ok_iff.1 ok
      cases same
      obtain ⟨category, kinds⟩ := make_ok offered created
      exact .inr ⟨rfl, ⟨category, kind, offered, kinds⟩, rfl, rfl⟩

/-- A resolution fails where no provider is kept and either the mode is not offered or the provider
cannot be made. -/
theorem get_error_iff : r.get w c = .error f ↔ r.kept.lookup c = none ∧
    ((kinds c).lookup (r.settings.mode c.word) = none ∧
        f = .noProvider c.word (some (r.settings.mode c.word)) ∨
      ∃ kind, (kinds c).lookup (r.settings.mode c.word) = some kind ∧
        make w r.settings c kind = .error f) := by
  unfold get
  cases cached : r.kept.lookup c with
  | some kept => simp
  | none =>
    simp only [resolve, true_and]
    cases offered : (kinds c).lookup (r.settings.mode c.word) with
    | none => simp [eq_comm]
    | some kind => cases made : make w r.settings c kind <;> simp [Except.map, made]

/-! ## More providers -/

/-- The registry with more providers: those kept stay, and new ones have new numbers. -/
structure Adds (r r' : Registry) : Prop where
  settings : r'.settings = r.settings
  next : r.next ≤ r'.next
  kept : ∀ {c h}, r.kept.lookup c = some h → r'.kept.lookup c = some h
  fresh : ∀ {c h}, r'.kept.lookup c = some h → r.kept.lookup c = some h ∨ r.next ≤ h.serial

theorem Adds.refl (r : Registry) : Adds r r := ⟨rfl, Nat.le_refl _, id, .inl⟩

theorem Adds.trans {r'' : Registry} (first : Adds r r') (second : Adds r' r'') : Adds r r'' where
  settings := second.settings.trans first.settings
  next := Nat.le_trans first.next second.next
  kept held := second.kept (first.kept held)
  fresh held := by
    rcases second.fresh held with old | new
    · exact first.fresh old
    · exact .inr (Nat.le_trans first.next new)

theorem lookup_concat (c d : Category) (h : Handle) (kept : List (Category × Handle)) :
    ((c, h) :: kept).lookup d = if d = c then some h else kept.lookup d := by
  by_cases same : d = c
  · simp [same]
  · simp [List.lookup_cons, same, beq_eq_false_iff_ne.2 same]

theorem adds_of_get (ok : r.get w c = .ok (h, r', w')) :
    Adds r r' ∧ r'.kept.lookup c = some h := by
  rcases get_ok ok with ⟨cached, rfl, rfl⟩ | ⟨absent, -, number, rfl⟩
  · exact ⟨.refl r', cached⟩
  · refine ⟨⟨rfl, Nat.le_succ _, fun {d g} held => ?_, fun {d g} held => ?_⟩, ?_⟩
    · have other : d ≠ c := by
        rintro rfl
        cases absent.symm.trans held
      rwa [lookup_concat, if_neg other]
    · rw [lookup_concat] at held
      split at held
      · cases held
        exact .inr (Nat.le_of_eq number.symm)
      · exact .inl held
    · rw [lookup_concat, if_pos rfl]

/-! ## Sound registries -/

/-- The providers kept are those that the settings choose, and no two have the same number. -/
structure Sound (r : Registry) : Prop where
  provides : ∀ {c h}, r.kept.lookup c = some h → Provides r.settings c h.made
  older : ∀ {c h}, r.kept.lookup c = some h → h.serial < r.next
  apart : ∀ {c d h g}, r.kept.lookup c = some h → r.kept.lookup d = some g →
    h.serial = g.serial → c = d

theorem sound_start (s : Settings) (next : Nat) : (start s next).Sound :=
  ⟨nofun, nofun, nofun⟩

theorem sound_reset (r : Registry) : r.reset.Sound := ⟨nofun, nofun, nofun⟩

theorem Sound.of_get (sound : r.Sound) (ok : r.get w c = .ok (h, r', w')) : r'.Sound := by
  rcases get_ok ok with ⟨-, rfl, -⟩ | ⟨-, provides, number, rfl⟩
  · exact sound
  · -- a number that is given out now is above those of all that are kept
    constructor
    · intro d g held
      rw [lookup_concat] at held
      split at held
      · next same =>
        cases held
        exact same ▸ provides
      · exact sound.provides held
    · intro d g held
      rw [lookup_concat] at held
      split at held
      · cases held
        exact number ▸ Nat.lt_succ_self _
      · exact Nat.lt_succ_of_lt (sound.older held)
    · intro d e g i held held' same
      rw [lookup_concat] at held held'
      split at held <;> split at held'
      · next first second => exact first.trans second.symm
      · cases held
        have := sound.older held'
        omega
      · cases held'
        have := sound.older held
        omega
      · exact sound.apart held held' same

/-! ## Stores that change -/

/-- A provider that is kept, with its store as it is in its file. -/
def refreshed (d : Databases) (h : Handle) : Handle :=
  match h.made with
  | .incidents source => { h with made := .incidents (source.refresh d) }
  | .users _ => h

theorem serial_refreshed (d : Databases) (h : Handle) : (refreshed d h).serial = h.serial := by
  unfold refreshed
  split <;> rfl

theorem kind?_refreshed (d : Databases) (h : Handle) :
    (refreshed d h).made.kind? = h.made.kind? := by
  unfold refreshed
  split
  · next source made => rw [made, Instance.kind?_refresh]
  · rfl

/-- A provider stays of its category and of its kind. -/
theorem Provides.refreshed {d : Databases} (provides : Provides s c h.made) :
    Provides s c (refreshed d h).made := by
  have category : (Registry.refreshed d h).made.category = h.made.category := by
    unfold Registry.refreshed
    split <;> simp [Instance.category, *]
  unfold Provides at provides ⊢
  rwa [category, kind?_refreshed]

theorem lookup_refresh (r : Registry) (d : Databases) (c : Category) :
    (r.refresh d).kept.lookup c = (r.kept.lookup c).map (refreshed d) := by
  have kept : (r.refresh d).kept = r.kept.map fun p => (p.1, refreshed d p.2) := rfl
  rw [kept]
  induction r.kept with
  | nil => rfl
  | cons p rest ih =>
    obtain ⟨e, h⟩ := p
    rw [List.map_cons, lookup_concat, lookup_concat, ih]
    split <;> rfl

theorem Sound.refresh (sound : r.Sound) (d : Databases) : (r.refresh d).Sound := by
  constructor
  · intro c g held
    rw [lookup_refresh] at held
    obtain ⟨h, kept, rfl⟩ := Option.map_eq_some_iff.1 held
    exact (sound.provides kept).refreshed
  · intro c g held
    rw [lookup_refresh] at held
    obtain ⟨h, kept, rfl⟩ := Option.map_eq_some_iff.1 held
    rw [serial_refreshed]
    exact sound.older kept
  · intro c e g i held held' same
    rw [lookup_refresh] at held held'
    obtain ⟨h, kept, rfl⟩ := Option.map_eq_some_iff.1 held
    obtain ⟨h', kept', rfl⟩ := Option.map_eq_some_iff.1 held'
    rw [serial_refreshed, serial_refreshed] at same
    exact sound.apart kept kept' same

/-! ## The two categories -/

theorem get_of_incidents {n : Nat} {source : Source}
    (ok : r.incidents w = .ok (n, source, r', w')) :
    r.get w .incidents = .ok (⟨n, .incidents source⟩, r', w') := by
  unfold incidents at ok
  cases resolved : r.get w .incidents with
  | error f => simp [resolved, bind, Except.bind] at ok
  | ok answer =>
    obtain ⟨⟨serial, made⟩, r, w⟩ := answer
    cases made <;> simp [resolved, bind, Except.bind, pure, Except.pure] at ok
    obtain ⟨rfl, rfl, rfl, rfl⟩ := ok
    rfl

theorem get_of_users {n : Nat} {people : Roll} (ok : r.users w = .ok (n, people, r', w')) :
    r.get w .users = .ok (⟨n, .users people⟩, r', w') := by
  unfold users at ok
  cases resolved : r.get w .users with
  | error f => simp [resolved, bind, Except.bind] at ok
  | ok answer =>
    obtain ⟨⟨serial, made⟩, r, w⟩ := answer
    cases made <;> simp [resolved, bind, Except.bind, pure, Except.pure] at ok
    obtain ⟨rfl, rfl, rfl, rfl⟩ := ok
    rfl

/-- What a sound registry hands out is of the category asked for. -/
theorem Sound.category_of_get (sound : r.Sound) (ok : r.get w c = .ok (h, r', w')) :
    h.made.category = c :=
  ((sound.of_get ok).provides (adds_of_get ok).2).1

/-- Asking for incidents fails only where the category cannot be resolved. -/
theorem Sound.get_of_incidents_error (sound : r.Sound) (failed : r.incidents w = .error f) :
    r.get w .incidents = .error f := by
  unfold incidents at failed
  cases resolved : r.get w .incidents with
  | error f => simpa [resolved, bind, Except.bind] using failed
  | ok answer =>
    obtain ⟨⟨serial, made⟩, r, w⟩ := answer
    have category := sound.category_of_get resolved
    cases made with
    | incidents source => simp [resolved, bind, Except.bind, pure, Except.pure] at failed
    | users people => cases category

theorem Sound.get_of_users_error (sound : r.Sound) (failed : r.users w = .error f) :
    r.get w .users = .error f := by
  unfold users at failed
  cases resolved : r.get w .users with
  | error f => simpa [resolved, bind, Except.bind] using failed
  | ok answer =>
    obtain ⟨⟨serial, made⟩, r, w⟩ := answer
    have category := sound.category_of_get resolved
    cases made with
    | incidents source => cases category
    | users people => simp [resolved, bind, Except.bind, pure, Except.pure] at failed

end Registry

end IncidentBoard
