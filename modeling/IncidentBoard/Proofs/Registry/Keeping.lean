import IncidentBoard.Proofs.Registry.Resolution

/-!
# One provider for each category

A registry is asked for providers in any order, by the word of a category or for the category
itself, and is reset now and then, while files and stores change around it. Each category has one
provider at a time: whoever asks is given the same one until a reset, and another one after it. What
fails leaves no trace.

## Main definitions

* `Registry.Ask`, `Registry.handOut` — the ways to ask, and what is handed out.
* `Registry.Event`, `Registry.perform` — what is done with a registry, and its answer.
* `Registry.after`, `Registry.answers` — the state after events, and all their answers.
* `Registry.OneEach`, `Registry.one_provider_each` — one provider for each category until a reset.
-/

namespace IncidentBoard.Registry

variable {r r' : Registry} {w w' : World} {c d : Category} {h g : Handle} {f : Failure}

/-! ## Asking -/

/-- The ways to ask for a provider: by any word, or for one of the categories. -/
inductive Ask where
  | named (word : String)
  | incidents
  | users
  deriving DecidableEq, Repr

/-- The word of the category that is asked for. -/
def Ask.word : Ask → String
  | .named word => word
  | .incidents => Category.incidents.word
  | .users => Category.users.word

/-- What is handed out to whoever asks, with the registry and the world after it. -/
def handOut (r : Registry) (w : World) : Ask → Except Failure (Handle × Registry × World)
  | .named word => r.getNamed w word
  | .incidents => (r.incidents w).map fun (n, source, r, w) => (⟨n, .incidents source⟩, r, w)
  | .users => (r.users w).map fun (n, people, r, w) => (⟨n, .users people⟩, r, w)

theorem handOut_ok {a : Ask} (ok : r.handOut w a = .ok (h, r', w')) :
    ∃ c : Category, c.word = a.word ∧ r.get w c = .ok (h, r', w') := by
  cases a with
  | named word =>
    change r.getNamed w word = _ at ok
    unfold getNamed at ok
    split at ok
    · next c known => exact ⟨c, Category.word_of_ofWord? known, ok⟩
    · cases ok
  | incidents =>
    obtain ⟨⟨n, source, r, w⟩, resolved, same⟩ := Failure.map_eq_ok_iff.1 ok
    cases same
    exact ⟨.incidents, rfl, get_of_incidents resolved⟩
  | users =>
    obtain ⟨⟨n, people, r, w⟩, resolved, same⟩ := Failure.map_eq_ok_iff.1 ok
    cases same
    exact ⟨.users, rfl, get_of_users resolved⟩

/-- Nothing is handed out for a word of no category, or where the category cannot be resolved. -/
theorem Sound.handOut_error {a : Ask} (sound : r.Sound) (failed : r.handOut w a = .error f) :
    Category.ofWord? a.word = none ∧ f = .noProvider a.word none ∨
      ∃ c : Category, c.word = a.word ∧ r.get w c = .error f := by
  cases a with
  | named word =>
    change r.getNamed w word = _ at failed
    unfold getNamed at failed
    split at failed
    · next c known => exact .inr ⟨c, Category.word_of_ofWord? known, failed⟩
    · next unknown =>
      cases failed
      exact .inl ⟨unknown, rfl⟩
  | incidents =>
    cases resolved : r.incidents w with
    | error f' =>
      simp only [handOut, resolved, Except.map] at failed
      cases failed
      exact .inr ⟨.incidents, rfl, sound.get_of_incidents_error resolved⟩
    | ok answer => simp [handOut, resolved, Except.map] at failed
  | users =>
    cases resolved : r.users w with
    | error f' =>
      simp only [handOut, resolved, Except.map] at failed
      cases failed
      exact .inr ⟨.users, rfl, sound.get_of_users_error resolved⟩
    | ok answer => simp [handOut, resolved, Except.map] at failed

/-- Whoever asks for a category that has its provider is given that one. -/
theorem Sound.handOut_of_kept {a : Ask} (sound : r.Sound) (word : c.word = a.word)
    (kept : r.kept.lookup c = some h) : r.handOut w a = .ok (h, r, w) := by
  have resolved : r.get w c = .ok (h, r, w) := by simp [get, kept]
  cases asked : r.handOut w a with
  | ok answer =>
    obtain ⟨d, word', same⟩ := handOut_ok asked
    obtain rfl := Category.word_injective (word.trans word'.symm)
    exact same.symm.trans resolved
  | error f =>
    rcases sound.handOut_error asked with ⟨unknown, -⟩ | ⟨d, word', failed⟩
    · rw [← word, Category.ofWord?_word] at unknown
      cases unknown
    · obtain rfl := Category.word_injective (word.trans word'.symm)
      cases resolved.symm.trans failed

/-! ## Events -/

/-- What is done with a registry, and what happens around it. -/
inductive Event where
  | ask (a : Ask)
  | reset
  /-- The files and stores that providers are made from change. -/
  | outside (w : World)

/-- An answer: a failure, or the provider that was asked for, if one was. -/
abbrev Answer := Except Failure (Option Handle)

/-- The answer to an event, and the registry and the world after it. What fails hands over neither,
so both stay what they were. -/
def perform (s : Registry × World) : Event → Answer × Registry × World
  | .ask a =>
    match s.1.handOut s.2 a with
    | .ok (h, r, w) => (.ok (some h), r, w)
    | .error f => (.error f, s)
  | .reset => (.ok none, s.1.reset, s.2)
  | .outside w => (.ok none, s.1, w)

/-- The registry and the world after some events. -/
def after (s : Registry × World) (events : List Event) : Registry × World :=
  events.foldl (fun s e => (perform s e).2) s

/-- The answers to some events, one after the other. -/
def answers (s : Registry × World) : List Event → List Answer
  | [] => []
  | e :: rest => (perform s e).1 :: answers (perform s e).2 rest

variable {s : Registry × World} {e : Event} {events more : List Event} {i j : Nat}

theorem after_append (s : Registry × World) (events more : List Event) :
    after s (events ++ more) = after (after s events) more := List.foldl_append

/-- Every event is answered in the state that those before it lead to. -/
theorem answers_getElem? (s : Registry × World) (events : List Event) (i : Nat) :
    (answers s events)[i]? = events[i]?.map fun e => (perform (after s (events.take i)) e).1 := by
  induction events generalizing s i with
  | nil => simp [answers]
  | cons e rest ih =>
    cases i with
    | zero => rfl
    | succ i => simpa [answers, after] using ih (perform s e).2 i

/-! ## What one event does -/

/-- A provider that is handed out was resolved for the category that was asked for. -/
theorem perform_ask {a : Ask} (ok : (perform s (.ask a)).1 = .ok (some h)) :
    ∃ c : Category, c.word = a.word ∧ s.1.get s.2 c = .ok (h, (perform s (.ask a)).2) := by
  cases resolved : s.1.handOut s.2 a with
  | ok answer =>
    simp only [perform, resolved] at ok ⊢
    cases ok
    exact handOut_ok resolved
  | error f => simp [perform, resolved] at ok

theorem perform_error (failed : (perform s e).1 = .error f) :
    (perform s e).2 = s ∧ ∃ a, e = .ask a ∧ s.1.handOut s.2 a = .error f := by
  cases e with
  | ask a =>
    cases resolved : s.1.handOut s.2 a with
    | ok answer => simp [perform, resolved] at failed
    | error f' =>
      simp only [perform, resolved] at failed ⊢
      cases failed
      exact ⟨trivial, a, rfl, resolved⟩
  | reset => cases failed
  | outside w => cases failed

/-- All that an event does to the registry: it may add a provider, or forget all of them. -/
theorem perform_cases (s : Registry × World) (e : Event) :
    e = .reset ∧ (perform s e).2.1 = s.1.reset ∨ e ≠ .reset ∧ Adds s.1 (perform s e).2.1 := by
  cases e with
  | ask a =>
    refine .inr ⟨nofun, ?_⟩
    cases resolved : s.1.handOut s.2 a with
    | ok answer =>
      obtain ⟨c, -, got⟩ := handOut_ok resolved
      simpa only [perform, resolved] using (adds_of_get got).1
    | error f => simpa only [perform, resolved] using Adds.refl s.1
  | reset => exact .inl ⟨rfl, rfl⟩
  | outside w => exact .inr ⟨nofun, .refl _⟩

theorem Sound.step (sound : s.1.Sound) (e : Event) : (perform s e).2.1.Sound := by
  cases e with
  | ask a =>
    cases resolved : s.1.handOut s.2 a with
    | ok answer =>
      obtain ⟨c, -, got⟩ := handOut_ok resolved
      simpa only [perform, resolved] using sound.of_get got
    | error f => simpa only [perform, resolved] using sound
  | reset => exact sound_reset s.1
  | outside w => exact sound

/-! ## What events do -/

theorem Sound.run (sound : s.1.Sound) (events : List Event) : (after s events).1.Sound := by
  induction events generalizing s with
  | nil => exact sound
  | cons e rest ih => exact ih (sound.step e)

theorem settings_after (s : Registry × World) (events : List Event) :
    (after s events).1.settings = s.1.settings := by
  induction events generalizing s with
  | nil => rfl
  | cons e rest ih =>
    refine (ih _).trans ?_
    rcases perform_cases s e with ⟨-, reset⟩ | ⟨-, adds⟩
    · rw [reset]
      rfl
    · exact adds.settings

/-- Without a reset, providers are only added. -/
theorem adds_after (keeps : Event.reset ∉ events) : Adds s.1 (after s events).1 := by
  induction events generalizing s with
  | nil => exact .refl _
  | cons e rest ih =>
    obtain ⟨here, later⟩ := List.ne_and_not_mem_of_not_mem_cons keeps
    rcases perform_cases s e with ⟨reset, -⟩ | ⟨-, adds⟩
    · exact absurd reset.symm here
    · exact adds.trans (ih later)

/-- Every provider kept has a number from `n` on, and so will every provider made. -/
structure From (n : Nat) (r : Registry) : Prop where
  next : n ≤ r.next
  kept : ∀ {c h}, r.kept.lookup c = some h → n ≤ h.serial

theorem From.step {n : Nat} (since : From n s.1) (e : Event) :
    From n (perform s e).2.1 := by
  rcases perform_cases s e with ⟨-, reset⟩ | ⟨-, adds⟩
  · rw [reset]
    exact ⟨since.next, nofun⟩
  · refine ⟨Nat.le_trans since.next adds.next, fun held => ?_⟩
    rcases adds.fresh held with old | new
    · exact since.kept old
    · exact Nat.le_trans since.next new

theorem From.run {n : Nat} (since : From n s.1) (events : List Event) :
    From n (after s events).1 := by
  induction events generalizing s with
  | nil => exact since
  | cons e rest ih => exact ih (since.step e)

theorem next_after (s : Registry × World) (events : List Event) :
    s.1.next ≤ (after s events).1.next := by
  induction events generalizing s with
  | nil => exact Nat.le_refl _
  | cons e rest ih =>
    refine Nat.le_trans ?_ (ih _)
    rcases perform_cases s e with ⟨-, reset⟩ | ⟨-, adds⟩
    · rw [reset]
      exact Nat.le_refl _
    · exact adds.next

/-- What is kept after a reset was made after it. -/
theorem from_after_reset (reset : Event.reset ∈ events) :
    From s.1.next (after s events).1 := by
  obtain ⟨before, rest, rfl⟩ := List.append_of_mem reset
  rw [after_append]
  have emptied : From s.1.next (perform (after s before) .reset).2.1 :=
    ⟨next_after s before, nofun⟩
  exact emptied.run rest

/-! ## Providers that are handed out -/

/-- The events between two of them. -/
def between (events : List Event) (i j : Nat) : List Event := (events.take j).drop (i + 1)

/-- An event asks for a category by its word and is handed out a provider. -/
def Resolves (s : Registry × World) (events : List Event) (i : Nat) (c : Category) (h : Handle) :
    Prop :=
  (∃ a, events[i]? = some (.ask a) ∧ a.word = c.word) ∧ (answers s events)[i]? = some (.ok (some h))

/-- Before and after a resolution: the category is resolved, and its provider is kept. -/
theorem Resolves.get (resolves : Resolves s events i c h) :
    (after s (events.take i)).1.get (after s (events.take i)).2 c =
        .ok (h, after s (events.take (i + 1))) ∧
      (after s (events.take (i + 1))).1.kept.lookup c = some h := by
  obtain ⟨⟨a, here, word⟩, answer⟩ := resolves
  rw [answers_getElem?, here] at answer
  obtain ⟨d, word', got⟩ := perform_ask (Option.some.inj answer)
  obtain rfl := Category.word_injective (word'.trans word)
  have step : after s (events.take (i + 1)) = (perform (after s (events.take i)) (.ask a)).2 := by
    rw [List.take_add_one, here, after_append]
    rfl
  rw [step]
  exact ⟨got, (adds_of_get got).2⟩

theorem after_between (s : Registry × World) (before : i < j) :
    after s (events.take j) = after (after s (events.take (i + 1))) (between events i j) := by
  have parts := List.take_append_drop (i + 1) (events.take j)
  rw [List.take_take, Nat.min_eq_left before] at parts
  rw [← after_append, between, parts]

/-- Without a reset between two resolutions of a category, the second one is given what the first
one was given. -/
theorem Resolves.same (first : Resolves s events i c h) (second : Resolves s events j c g)
    (before : i < j) (keeps : Event.reset ∉ between events i j) : h = g := by
  have kept := (adds_after keeps).kept first.get.2
  rw [← after_between s before] at kept
  rcases get_ok second.get.1 with ⟨cached, -⟩ | ⟨absent, -⟩
  · exact Option.some.inj (kept.symm.trans cached)
  · cases kept.symm.trans absent

/-- What is handed out after a reset was made after everything handed out before it. -/
theorem Resolves.serial_lt (sound : s.1.Sound) (first : Resolves s events i c h)
    (second : Resolves s events j d g) (before : i < j)
    (reset : Event.reset ∈ between events i j) : h.serial < g.serial := by
  have since : From (after s (events.take (i + 1))).1.next (after s (events.take j)).1 := by
    rw [after_between s before]
    exact from_after_reset reset
  have old : h.serial < (after s (events.take (i + 1))).1.next :=
    (sound.run _).older first.get.2
  rcases get_ok second.get.1 with ⟨cached, -⟩ | ⟨-, -, number, -⟩
  · exact Nat.lt_of_lt_of_le old (since.kept cached)
  · rw [number]
    exact Nat.lt_of_lt_of_le old since.next

/-- Different categories are never given the same provider. -/
theorem Resolves.serial_ne (sound : s.1.Sound) (first : Resolves s events i c h)
    (second : Resolves s events j d g) (before : i < j) (other : c ≠ d) :
    h.serial ≠ g.serial := by
  by_cases reset : Event.reset ∈ between events i j
  · exact Nat.ne_of_lt (first.serial_lt sound second before reset)
  · intro same
    have kept := (adds_after reset).kept first.get.2
    rw [← after_between s before] at kept
    have still := (adds_of_get second.get.1).1.kept kept
    exact other ((sound.run _).apart still second.get.2 same)

/-! ## One provider each -/

/-- A category has one provider at a time, whatever else is asked for and whatever fails. -/
structure OneEach (s : Registry × World) (events : List Event) : Prop where
  /-- Two resolutions of a category hand out the same provider if and only if no reset lies between
  them. Providers are told apart by their numbers. -/
  same : ∀ {i j c h g}, i < j → Resolves s events i c h → Resolves s events j c g →
    (h.serial = g.serial ↔ Event.reset ∉ between events i j) ∧ (h.serial = g.serial → h = g)
  /-- Until a reset, whoever asks again is given the provider, and never a failure. -/
  again : ∀ {i j c h a}, i < j → Resolves s events i c h → events[j]? = some (.ask a) →
    a.word = c.word → Event.reset ∉ between events i j → Resolves s events j c h
  apart : ∀ {i j c d h g}, Resolves s events i c h → Resolves s events j d g → c ≠ d →
    h.serial ≠ g.serial
  /-- The provider is of the kind that is offered under the mode of the category's own, or under
  the global mode where it has none. -/
  chosen : ∀ {i c h}, Resolves s events i c h → h.made.category = c ∧ ∃ kind,
    (kinds c).lookup (if c.override s.1.settings = "" then s.1.settings.backstageMode
      else c.override s.1.settings) = some kind ∧ h.made.kind? = some kind
  /-- What fails asks for an unknown word, or for a category that has no provider at that time,
  under a mode that is not offered or with a provider that cannot be made. -/
  failed : ∀ {i f}, (answers s events)[i]? = some (.error f) → ∃ a, events[i]? = some (.ask a) ∧
    (Category.ofWord? a.word = none ∧ f = .noProvider a.word none ∨
      ∃ c : Category, c.word = a.word ∧
        (∀ k h, k < i → Resolves s events k c h → Event.reset ∈ between events k i) ∧
        let mode := s.1.settings.mode c.word
        ((kinds c).lookup mode = none ∧ f = .noProvider c.word (some mode) ∨
          ∃ kind w, (kinds c).lookup mode = some kind ∧
            make w s.1.settings c kind = .error f))
  /-- Without what fails, nothing would be different: neither the other answers nor what is
  kept. -/
  traceless : ∀ {i f}, (answers s events)[i]? = some (.error f) →
    answers s (events.eraseIdx i) = (answers s events).eraseIdx i ∧
      after s (events.eraseIdx i) = after s events

theorem traceless_of_error (failed : (answers s events)[i]? = some (.error f)) :
    answers s (events.eraseIdx i) = (answers s events).eraseIdx i ∧
      after s (events.eraseIdx i) = after s events := by
  induction events generalizing s i with
  | nil => cases failed
  | cons e rest ih =>
    cases i with
    | zero =>
      obtain ⟨still, -⟩ := perform_error (Option.some.inj failed)
      exact ⟨by simp [answers, still], by simp [after, still]⟩
    | succ i =>
      obtain ⟨others, state⟩ := ih (s := (perform s e).2) failed
      exact ⟨congrArg _ others, state⟩

/-- A registry that begins with the providers that its settings choose has one provider for each
category until a reset. -/
theorem Sound.oneEach (sound : s.1.Sound) (events : List Event) : OneEach s events where
  same {i j c h g} before first second := by
    by_cases reset : Event.reset ∈ between events i j
    · have later := first.serial_lt sound second before reset
      exact ⟨⟨fun same => by omega, fun keeps => absurd reset keeps⟩, fun same => by omega⟩
    · obtain rfl := first.same second before reset
      exact ⟨⟨fun _ => reset, fun _ => rfl⟩, fun _ => rfl⟩
  again {i j c h a} before first asked word keeps := by
    have kept := (adds_after keeps).kept first.get.2
    rw [← after_between s before] at kept
    have given := (sound.run _).handOut_of_kept word.symm kept (w := (after s (events.take j)).2)
    refine ⟨⟨a, asked, word⟩, ?_⟩
    rw [answers_getElem?, asked]
    simp only [Option.map_some, perform, given]
  apart {i j c d h g} first second other := by
    rcases Nat.lt_trichotomy i j with before | rfl | behind
    · exact first.serial_ne sound second before other
    · obtain ⟨⟨a, here, word⟩, -⟩ := first
      obtain ⟨⟨b, here', word'⟩, -⟩ := second
      cases here.symm.trans here'
      exact absurd (Category.word_injective (word.symm.trans word')) other
    · exact (second.serial_ne sound first behind other.symm).symm
  chosen {i c h} resolves := by
    have provides := (sound.run _).provides resolves.get.2
    rw [settings_after] at provides
    simpa only [Provides, Settings.mode_word] using provides
  failed {i f} failed := by
    rw [answers_getElem?] at failed
    obtain ⟨e, here, answer⟩ := Option.map_eq_some_iff.1 failed
    obtain ⟨-, a, rfl, refused⟩ := perform_error answer
    refine ⟨a, here, ?_⟩
    rcases (sound.run _).handOut_error refused with unknown | ⟨c, word, unresolved⟩
    · exact .inl unknown
    · obtain ⟨absent, cause⟩ := get_error_iff.1 unresolved
      rw [settings_after] at cause
      refine .inr ⟨c, word, fun k h before resolves => ?_, ?_⟩
      · refine Classical.byContradiction fun keeps => ?_
        have kept := (adds_after keeps).kept resolves.get.2
        rw [← after_between s before] at kept
        cases kept.symm.trans absent
      · rcases cause with notOffered | ⟨kind, offered, unmade⟩
        · exact .inl notOffered
        · exact .inr ⟨kind, _, offered, unmade⟩
  traceless := traceless_of_error

/-- From the start, in every world and with all settings, a registry has one provider for each
category until a reset. -/
theorem one_provider_each (settings : Settings) (next : Nat) (w : World) (events : List Event) :
    OneEach (start settings next, w) events :=
  Sound.oneEach (sound_start settings next) events

/-- Incidents that cannot be made at first, people from a store, a word of no category, and a reset:
the first and the last incidents are two, and all between are the first. -/
theorem one_provider_each_of_failures :
    let settings := { (default : Settings) with backstageMode := "mock", usersMode := "sql" }
    let s : Registry × World := (start settings 0, ⟨[], []⟩)
    let events := [.ask .incidents, .outside ⟨[("", .value (.object []))], []⟩, .ask .incidents,
      .ask .users, .ask (.named "teams"), .ask (.named "incidents"), .reset, .ask .incidents]
    (∃ f, (answers s events)[0]? = some (.error f)) ∧
      ∃ h g, Resolves s events 2 .incidents h ∧ Resolves s events 5 .incidents h ∧
        Resolves s events 7 .incidents g ∧ h.serial ≠ g.serial ∧
        h.made.kind? = some .scenario := by
  intro settings s events
  have once := one_provider_each settings 0 ⟨[], []⟩ events
  have first : ∃ h, Resolves s events 2 .incidents h := ⟨_, ⟨.incidents, rfl, rfl⟩, rfl⟩
  have last : ∃ g, Resolves s events 7 .incidents g := ⟨_, ⟨.incidents, rfl, rfl⟩, rfl⟩
  obtain ⟨h, first⟩ := first
  obtain ⟨g, last⟩ := last
  have again : Resolves s events 5 .incidents h :=
    once.again (by decide) first rfl rfl (by simp [between, events])
  have two : h.serial ≠ g.serial := fun same =>
    ((once.same (by decide) first last).1.1 same) (by simp [between, events])
  obtain ⟨-, kind, offered, made⟩ := once.chosen first
  obtain rfl : .scenario = kind := Option.some.inj offered
  exact ⟨⟨_, rfl⟩, h, g, first, again, last, two, made⟩

end IncidentBoard.Registry
