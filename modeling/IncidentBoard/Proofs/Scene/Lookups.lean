import IncidentBoard.Proofs.Scene.Callers
import IncidentBoard.Proofs.Scene.Deeds
import IncidentBoard.Provider.Script
import Mathlib.Data.List.Perm.Basic

/-!
# The lookups of commanders

A caller asks for the commanders of the team in force, and looks up all of them at the same time.
Meanwhile actions are dispatched, terms are typed and turns are run in any order, so the outcomes
come in any order too. What happens to the lookups is kept in a log. Along every course each
commander is looked up once, and what the caller is told in the end is a function of the outcomes in
the order of the commanders.

## Main definitions

* `LookupLog` — what happened to lookups.
* `Inquiry`, `Scene.InquiryMove` — how far a caller has come, and what it does to get on.
* `Scene.Inquires`, `Scene.Accompanied` — the same with the turns of others, and with whatever else
  is done meanwhile.
* `Scene.Pursues` — what holds while the lookups are under way.
* `Scene.Concludes` — what a caller is told, by the outcomes.
* `Scene.commanders_in_order` — every course ends so, and the caller changes nothing else.
-/

namespace IncidentBoard

/-! ## Numbered lists -/

section Numbered

variable {α β : Type}

theorem perm_regroup (as bs cs ds : List α) :
    ((as ++ bs) ++ (cs ++ ds)).Perm ((as ++ ds) ++ (bs ++ cs)) := by
  rw [List.append_assoc, List.append_assoc, ← List.append_assoc bs]
  exact List.perm_append_comm.append_left as

/-- In a list of pairs with distinct keys, what a key leads to is found. -/
theorem lookup_of_mem {ps : List (Nat × β)} (nodup : (ps.map Prod.fst).Nodup) {n : Nat} {y : β}
    (member : (n, y) ∈ ps) : ps.lookup n = some y := by
  induction ps with
  | nil => cases member
  | cons p rest ih =>
    obtain ⟨m, z⟩ := p
    obtain ⟨fresh, nodup⟩ := List.nodup_cons.1 nodup
    rcases List.mem_cons.1 member with same | later
    · cases same
      simp
    · have other : (n == m) = false :=
        beq_eq_false_iff_ne.2 fun same => fresh (List.mem_map.2 ⟨_, later, same⟩)
      simpa only [List.lookup_cons, other] using ih nodup later

theorem filterMap_getElem? (ys : List β) : (List.range ys.length).filterMap (ys[·]?) = ys := by
  induction ys with
  | nil => rfl
  | cons y rest ih =>
    rw [List.length_cons, List.range_succ_eq_map, List.filterMap_cons, List.filterMap_map]
    exact congrArg (y :: ·) ih

/-- Outcomes are found by their numbers, in whatever order they came. -/
theorem filterMap_lookup {ys : List β} {ps : List (Nat × β)}
    (perm : ps.Perm (ys.zipIdx.map Prod.swap)) :
    (List.range ys.length).filterMap (fun n => ps.lookup n) = ys := by
  have keys : ((ys.zipIdx.map Prod.swap).map Prod.fst).Nodup := by
    have range : (ys.zipIdx.map Prod.swap).map Prod.fst = List.range' 0 ys.length := by
      rw [List.map_map]
      exact List.zipIdx_map_snd 0 ys
    rw [range]
    exact List.nodup_range'
  have nodup : (ps.map Prod.fst).Nodup := (perm.map _).nodup_iff.2 keys
  have found (n : Nat) (below : n < ys.length) : ps.lookup n = ys[n]? := by
    rw [List.getElem?_eq_getElem below]
    refine lookup_of_mem nodup (perm.symm.subset (List.mem_map.2 ⟨(ys[n], n), ?_, rfl⟩))
    simp [List.mem_zipIdx_iff_getElem?, below]
  calc (List.range ys.length).filterMap (fun n => ps.lookup n)
      = (List.range ys.length).filterMap (ys[·]?) :=
        List.filterMap_congr fun n member => found n (List.mem_range.1 member)
    _ = ys := filterMap_getElem? ys

/-- If pairs are, but for their order, numbered as the members of a list are, they are the members
of the list paired with others. -/
theorem exists_zip_of_perm {xs : List α} {ps : List ((α × β) × Nat)}
    (perm : (ps.map fun p => (p.1.1, p.2)).Perm xs.zipIdx) :
    ∃ ys : List β, ys.length = xs.length ∧ ps.Perm (xs.zip ys).zipIdx := by
  have related : List.Forall₂ (fun x p => x = (p.1.1, p.2)) (ps.map fun p => (p.1.1, p.2)) ps := by
    rw [List.forall₂_map_left_iff]
    exact List.forall₂_same.2 fun _ _ => rfl
  obtain ⟨qs, same, sorted⟩ := List.perm_comp_forall₂ perm.symm related
  have named : xs.zipIdx = qs.map fun p => (p.1.1, p.2) := by
    rw [← List.forall₂_eq_eq_eq, List.forall₂_map_right_iff]
    exact same
  have count : qs.length = xs.length := by
    simpa using (congrArg List.length named).symm
  refine ⟨qs.map (·.1.2), by simp [count], sorted.symm.trans (.of_eq ?_)⟩
  refine List.ext_getElem (by simp [count]) fun n h h' => ?_
  have here := congrArg (·[n]?) named
  have below : n < xs.length := count ▸ h
  simp only [List.getElem?_map, List.getElem?_zipIdx, List.getElem?_eq_getElem h,
    List.getElem?_eq_getElem below, Option.map_some, Option.some.injEq, Prod.mk.injEq] at here
  refine Prod.ext (Prod.ext ?_ ?_) ?_ <;> simp [here]

end Numbered

/-! ## What happens to lookups -/

/-- What happens to the lookup of a person. -/
inductive LookupEvent where
  /-- The directory is asked for a person; its reply has this outcome. -/
  | sent (number : Nat) (id : String) (outcome : Except Failure UserProfile)
  /-- The outcome arrives. -/
  | given (number : Nat) (outcome : Except Failure UserProfile)

/-- What happened to lookups, in order. -/
abbrev LookupLog := List LookupEvent

namespace LookupLog

def sent? : LookupEvent → Option ((String × Except Failure UserProfile) × Nat)
  | .sent number id outcome => some ((id, outcome), number)
  | .given _ _ => none

def given? : LookupEvent → Option (Except Failure UserProfile × Nat)
  | .sent _ _ _ => none
  | .given number outcome => some (outcome, number)

/-- Everyone who was looked up, with the outcome and the number of the lookup. -/
def sent (log : LookupLog) : List ((String × Except Failure UserProfile) × Nat) :=
  log.filterMap sent?

/-- The outcomes that arrived, with the numbers of their lookups. -/
def given (log : LookupLog) : List (Except Failure UserProfile × Nat) := log.filterMap given?

@[simp] theorem sent_append (log more : LookupLog) :
    sent (log ++ more) = sent log ++ sent more := List.filterMap_append

@[simp] theorem given_append (log more : LookupLog) :
    given (log ++ more) = given log ++ given more := List.filterMap_append

end LookupLog

namespace Turn

/-- The lookup that a turn sends. -/
def sends? : Turn → Option (String × Nat)
  | .lookupOpens number id => some (id, number)
  | _ => none

/-- The outcome of a lookup that a turn brings. -/
def brings? : Turn → Option (Except Failure UserProfile × Nat)
  | .lookupReturns number outcome => some (outcome, number)
  | _ => none

end Turn

/-- How far a caller has come who asks for the profiles of the commanders. -/
inductive Inquiry where
  /-- It waits for the outcome of the call for the commanders. -/
  | commanders (outcome : Except Failure (List Commander))
  /-- It waits for the lookups of the commanders. -/
  | profiles (commanders : List Commander)
  /-- It was told. -/
  | ended (answer : Except Failure (List UserProfile))

namespace Scene

variable {σ δ : Type} {s t u : Scene σ δ} {turn : Turn}

/-- What a turn does to lookups. -/
def lookupEvents (env : Backend σ δ) (s : Scene σ δ) : Turn → LookupLog
  | .lookupOpens number id =>
    let reply := (env.directory.profile s.people id).1
    .sent number id reply.outcome ::
      if reply.after = 0 then [.given number reply.outcome] else []
  | .lookupReturns number outcome => [.given number outcome]
  | _ => []

/-! ## Courses -/

/-- What the caller does when it is told the commanders. -/
def proceed (s : Scene σ δ) : Except Failure (List Commander) → Scene σ δ × Inquiry
  | .error f => (s, .ended (if f.isOwn then .ok [] else .error f))
  | .ok [] => (s, .ended (.ok []))
  | .ok (c :: cs) => (s.lookingUp ((c :: cs).map (·.userId)), .profiles (c :: cs))

/-- The commanders of the team in force are asked for. -/
def inquire (env : Backend σ δ) (s : Scene σ δ) : Scene σ δ × Inquiry :=
  let (reply, source) := env.provider.commanders s.source s.board.query.team
  let s := { s with source := source }
  if reply.after = 0 then s.proceed reply.outcome
  else (s.sleep reply.after .callerResumes, .commanders reply.outcome)

/-- The outcomes of the lookups, in the order of their numbers. -/
def found (s : Scene σ δ) (count : Nat) : List (Except Failure UserProfile) :=
  (List.range count).filterMap fun n => s.profiles.lookup n

/-- What the caller is told, by the outcomes. -/
def options (commanders : List Commander) (found : List (Except Failure UserProfile)) :
    Except Failure (List UserProfile) :=
  (commanders.zip found).mapM fun (c, r) => profileOf c r

/-- What a caller does to get on. -/
inductive InquiryMove (env : Backend σ δ) :
    Scene σ δ × Inquiry → LookupLog → Scene σ δ × Inquiry → Prop
  /-- It is told the commanders. -/
  | told {s u : Scene σ δ} {outcome : Except Failure (List Commander)}
      (take : Takes s .callerResumes u) :
      InquiryMove env (s, .commanders outcome) [] (u.proceed outcome)
  /-- A lookup is sent, its outcome arrives, or it is over. -/
  | turn {s u : Scene σ δ} {turn : Turn} (inquiry : Inquiry) (take : Takes s turn u)
      (kind : turn.kind = .caller) (other : turn ≠ .callerResumes) :
      InquiryMove env (s, inquiry) (u.lookupEvents env turn) (u.run env turn, inquiry)
  /-- It goes on after the lookups. -/
  | resumed {s u : Scene σ δ} {commanders : List Commander} (take : Takes s .callerResumes u) :
      InquiryMove env (s, .profiles commanders) []
        (u, .ended (options commanders (u.found commanders.length)))

/-- What happens of itself: what a caller does, and the turns of others. -/
inductive Inquires (env : Backend σ δ) :
    Scene σ δ × Inquiry → LookupLog → Scene σ δ × Inquiry → Prop
  | own {a b : Scene σ δ × Inquiry} {more : LookupLog} (move : InquiryMove env a more b) :
      Inquires env a more b
  | turn {s u : Scene σ δ} {turn : Turn} (inquiry : Inquiry) (take : Takes s turn u)
      (kind : turn.kind ≠ .caller) : Inquires env (s, inquiry) [] (u.run env turn, inquiry)

/-- The lookups are left alone. -/
structure Apart (s t : Scene σ δ) : Prop where
  awaited : t.awaited = s.awaited
  profiles : t.profiles = s.profiles
  turns : (t.turnsOf .caller).Perm (s.turnsOf .caller)

/-- What happens of itself, and whatever else is done meanwhile. -/
inductive Accompanied (env : Backend σ δ) :
    Scene σ δ × Inquiry → LookupLog → Scene σ δ × Inquiry → Prop
  | alone {a b : Scene σ δ × Inquiry} {more : LookupLog} (step : Inquires env a more b) :
      Accompanied env a more b
  /-- An action is dispatched; the choice of another team is one. -/
  | act (s : Scene σ δ) (inquiry : Inquiry) (a : Action) :
      Accompanied env (s, inquiry) [] (s.attempt a, inquiry)
  /-- A search term is typed. -/
  | type (s : Scene σ δ) (inquiry : Inquiry) (term : Json) :
      Accompanied env (s, inquiry) [] (s.type term, inquiry)
  /-- Something happens elsewhere, perhaps to the provider, to the clock or to the view. -/
  | elsewhere {s t : Scene σ δ} (inquiry : Inquiry) (apart : Apart s t) :
      Accompanied env (s, inquiry) [] (t, inquiry)

/-! ## What leaves the lookups alone -/

namespace Apart

theorem of_run (env : Backend σ δ) (take : Takes s turn u) (other : turn.kind ≠ .caller) :
    Apart s (u.run env turn) where
  awaited := by rw [(run_of_other env u other).1, take.scene]
  profiles := by rw [(run_of_other env u other).2, take.scene]
  turns := (run_turnsOf u other (by decide)).trans (take.turnsOf_of_ne other).symm

theorem attempt (s : Scene σ δ) (a : Action) : Apart s (s.attempt a) := by
  rcases s.attempt_cases a with ⟨same, -⟩ | ⟨issued, -⟩
  · rw [same]
    exact ⟨rfl, rfl, .refl _⟩
  · rw [issued]
    exact ⟨rfl, rfl, turnsOf_post_of_ne _ (by simp [Turn.kind])⟩

theorem type (s : Scene σ δ) (term : Json) : Apart s (s.type term) :=
  ⟨rfl, rfl, turnsOf_post_of_ne _ (by simp [Turn.kind])⟩

end Apart

/-! ## Lookups under way -/

variable {env : Backend σ δ} {log more : LookupLog} {ids : List String}

/-- What holds while people are looked up: everyone is still to be looked up, or was looked up once,
and each outcome is still to arrive, or arrived once. -/
structure Pursues (env : Backend σ δ) (ids : List String) (log : LookupLog) (s : Scene σ δ) :
    Prop where
  waits : Waits s
  sends : ((s.turnsOf .caller).filterMap Turn.sends? ++
    log.sent.map fun x => (x.1.1, x.2)).Perm ids.zipIdx
  brings : ((s.turnsOf .caller).filterMap Turn.brings? ++ log.given).Perm
    (log.sent.map fun x => (x.1.2, x.2))
  profiles : s.profiles = log.given.map Prod.swap
  replies : ∀ x ∈ log.sent, ∃ people, (env.directory.profile people x.1.1).1.outcome = x.1.2

namespace Pursues

theorem start (env : Backend σ δ) (free : s.turnsOf .caller = []) (someone : ids ≠ []) :
    Pursues env ids [] (s.lookingUp ids) := by
  have turns := sendLookups_turns { s with profiles := [], awaited := ids.length } ids.zipIdx
  have unheld : turnsOf { s with profiles := [], awaited := ids.length } .caller = [] := free
  rw [unheld, List.append_nil] at turns
  refine ⟨.lookingUp free someone, ?_, ?_, ?_, by simp [LookupLog.sent]⟩
  · have sends : (ids.zipIdx.reverse.map fun x => Turn.lookupOpens x.2 x.1).filterMap Turn.sends? =
        ids.zipIdx.reverse := by
      rw [List.filterMap_map]
      exact List.filterMap_some
    have sent := turns.filterMap Turn.sends?
    rw [sends] at sent
    exact (List.append_nil _).symm ▸ sent.trans (List.reverse_perm _)
  · have brings : (ids.zipIdx.reverse.map fun x => Turn.lookupOpens x.2 x.1).filterMap
        Turn.brings? = [] := by
      simp [Turn.brings?]
    have brought := turns.filterMap Turn.brings?
    rw [brings] at brought
    exact (List.append_nil _).symm ▸ brought
  · exact sendLookups_profiles _ _

theorem apart (P : Pursues env ids log s) (apart : Apart s t) : Pursues env ids log t where
  waits := P.waits.congr apart.awaited apart.turns
  sends := ((apart.turns.filterMap _).append_right _).trans P.sends
  brings := ((apart.turns.filterMap _).append_right _).trans P.brings
  profiles := apart.profiles.trans P.profiles
  replies := P.replies

/-- What a turn takes from the agenda, it puts there again or in the log. -/
theorem step (new : List Turn) (P : Pursues env ids log s) (take : Takes s turn u)
    (kind : turn.kind = .caller) (waits : Waits t)
    (after : (t.turnsOf .caller).Perm (new ++ u.turnsOf .caller))
    (sends : new.filterMap Turn.sends? ++ more.sent.map (fun x => (x.1.1, x.2)) =
      turn.sends?.toList)
    (brings : new.filterMap Turn.brings? ++ more.given =
      turn.brings?.toList ++ more.sent.map fun x => (x.1.2, x.2))
    (profiles : t.profiles = u.profiles ++ more.given.map Prod.swap)
    (replies : ∀ x ∈ more.sent, ∃ people,
      (env.directory.profile people x.1.1).1.outcome = x.1.2) :
    Pursues env ids (log ++ more) t := by
  have before : (s.turnsOf .caller).Perm (turn :: u.turnsOf .caller) := by
    simpa [kind] using turnsOf_of_perm take.turns .caller
  have taken {α : Type} (part : Turn → Option α) : ((s.turnsOf .caller).filterMap part).Perm
      ((part turn).toList ++ (u.turnsOf .caller).filterMap part) := by
    refine (before.filterMap part).trans (.of_eq ?_)
    cases one : part turn <;> simp [one]
  refine ⟨waits, ?_, ?_, ?_, ?_⟩
  · have sent := (taken Turn.sends?).append_right (log.sent.map fun x => (x.1.1, x.2))
    rw [LookupLog.sent_append, List.map_append]
    refine (((after.filterMap _).append_right _).trans ?_).trans (sent.symm.trans P.sends)
    rw [List.filterMap_append, ← sends, List.append_assoc (_ ++ _)]
    exact perm_regroup ..
  · have given := (taken Turn.brings?).append_right log.given
    rw [LookupLog.sent_append, List.map_append, LookupLog.given_append]
    refine ((after.filterMap _).append_right _).trans ?_
    refine .trans ?_ ((given.symm.trans P.brings).append_right _)
    rw [List.filterMap_append]
    refine (perm_regroup ..).trans ?_
    rw [brings, List.append_assoc (turn.brings?.toList ++ _)]
    exact (perm_regroup ..).symm
  · rw [profiles, take.scene, LookupLog.given_append, List.map_append]
    exact congrArg (· ++ _) P.profiles
  · intro x member
    rw [LookupLog.sent_append] at member
    exact (List.mem_append.1 member).elim (P.replies x) (replies x)

theorem takes (P : Pursues env ids log s) (take : Takes s turn u) (kind : turn.kind = .caller)
    (other : turn ≠ .callerResumes) :
    Pursues env ids (log ++ u.lookupEvents env turn) (u.run env turn) := by
  have waits := P.waits.takes env take other
  cases turn with
  | lookupOpens number id =>
    let reply := (env.directory.profile u.people id).1
    have replies (x) (member : x ∈ LookupLog.sent [.sent number id reply.outcome]) :
        ∃ people, (env.directory.profile people x.1.1).1.outcome = x.1.2 := by
      obtain rfl := List.mem_singleton.1 member
      exact ⟨u.people, rfl⟩
    change Pursues env ids (log ++ .sent number id reply.outcome :: if reply.after = 0 then
      [.given number reply.outcome] else []) (u.openLookup env number id)
    have waits : Waits (u.openLookup env number id) := waits
    unfold openLookup at waits ⊢
    dsimp only at waits ⊢
    split
    · rename_i now
      rw [if_pos now] at waits
      exact P.step [.lookupSettles] take kind waits (turnsOf_post _ _ .caller) rfl rfl rfl replies
    · rename_i later
      rw [if_neg later] at waits
      exact P.step [.lookupReturns number reply.outcome] take kind waits
        (turnsOf_sleep _ _ _ .caller) rfl rfl (List.append_nil _).symm replies
  | lookupReturns number o =>
    exact P.step [.lookupSettles] take kind waits (turnsOf_post _ _ .caller) rfl rfl rfl nofun
  | lookupSettles =>
    have waits : Waits u.settleLookup := waits
    change Pursues env ids _ u.settleLookup
    unfold settleLookup at waits ⊢
    dsimp only at waits ⊢
    split
    · rename_i last
      rw [if_pos last] at waits
      exact P.step [.callerResumes] take kind waits (turnsOf_post _ _ .caller) rfl rfl
        (List.append_nil _).symm nofun
    · rename_i more
      rw [if_neg more] at waits
      exact P.step [] take kind waits (.refl _) rfl rfl (List.append_nil _).symm nofun
  | callerResumes => exact absurd rfl other
  | _ => cases kind

/-- When the caller goes on, everyone was looked up once and every outcome arrived. -/
theorem resumed (P : Pursues env ids log s) (take : Takes s .callerResumes u) :
    ∃ outcomes : List (Except Failure UserProfile), outcomes.length = ids.length ∧
      log.sent.Perm (ids.zip outcomes).zipIdx ∧ log.given.Perm outcomes.zipIdx ∧
        u.found ids.length = outcomes := by
  have turns : s.turnsOf .caller = [.callerResumes] := by
    have before : (s.turnsOf .caller).Perm (.callerResumes :: u.turnsOf .caller) :=
      turnsOf_of_perm take.turns .caller
    rw [P.waits.resumes take] at before
    exact List.perm_singleton.1 before
  have sent : (log.sent.map fun x => (x.1.1, x.2)).Perm ids.zipIdx := by
    have sends := P.sends
    rw [turns] at sends
    exact sends
  have brought : log.given.Perm (log.sent.map fun x => (x.1.2, x.2)) := by
    have brings := P.brings
    rw [turns] at brings
    exact brings
  obtain ⟨outcomes, count, named⟩ := exists_zip_of_perm sent
  have zipped : ((ids.zip outcomes).zipIdx.map fun x => (x.1.2, x.2)) = outcomes.zipIdx := by
    conv_rhs => rw [← List.map_snd_zip (Nat.le_of_eq count), List.zipIdx_map]
    rfl
  have given : log.given.Perm outcomes.zipIdx := zipped ▸ brought.trans (named.map _)
  refine ⟨outcomes, count, named, given, ?_⟩
  rw [found, ← count, take.scene, P.profiles]
  exact filterMap_lookup (given.map _)

end Pursues

/-! ## What the caller is told -/

/-- What stands for a commander: the profile, or the bare id where the lookup failed. -/
def shown (c : Commander) : Except Failure UserProfile → UserProfile
  | .ok p => p
  | .error _ => .bare c.userId

/-- Each commander was looked up once, all lookups are over, and the answer is a function of their
outcomes in the order of the commanders: a profile for each, or the first foreign failure. -/
def Gathers (env : Backend σ δ) (commanders : List Commander) (log : LookupLog)
    (answer : Except Failure (List UserProfile)) : Prop :=
  ∃ outcomes : List (Except Failure UserProfile), outcomes.length = commanders.length ∧
    log.sent.Perm ((commanders.map (·.userId)).zip outcomes).zipIdx ∧
    log.given.Perm outcomes.zipIdx ∧
    (∀ x ∈ log.sent, ∃ people, (env.directory.profile people x.1.1).1.outcome = x.1.2) ∧
    ((∀ f, .error f ∈ outcomes → f.isOwn = true) →
      answer = .ok (List.zipWith shown commanders outcomes)) ∧
    ∀ before f after, outcomes = before ++ .error f :: after →
      (∀ g, .error g ∈ before → g.isOwn = true) → f.isOwn = false → answer = .error f

/-- What a caller is told, by the outcome of the call for the commanders. -/
def Concludes (env : Backend σ δ) (outcome : Except Failure (List Commander)) (log : LookupLog)
    (answer : Except Failure (List UserProfile)) : Prop :=
  match outcome with
  | .error f => log = [] ∧ answer = if f.isOwn then .ok [] else .error f
  | .ok commanders => Gathers env commanders log answer

theorem options_cons (c : Commander) (r : Except Failure UserProfile) (cs : List Commander)
    (rs : List (Except Failure UserProfile)) :
    options (c :: cs) (r :: rs) =
      (profileOf c r).bind fun p => (options cs rs).map (p :: ·) := by
  simp only [options, List.zip_cons_cons, List.mapM_cons]
  rfl

theorem options_of_own {cs : List Commander} {found : List (Except Failure UserProfile)}
    (own : ∀ f, .error f ∈ found → f.isOwn = true) :
    options cs found = .ok (List.zipWith shown cs found) := by
  induction cs generalizing found with
  | nil => rfl
  | cons c cs ih =>
    cases found with
    | nil => rfl
    | cons r rs =>
      rw [options_cons, ih fun f member => own f (.tail _ member)]
      cases r with
      | ok p => rfl
      | error f =>
        simp only [profileOf, own f (.head _), if_true]
        rfl

theorem options_of_foreign {cs : List Commander} {before after : List (Except Failure UserProfile)}
    {f : Failure} (own : ∀ g, .error g ∈ before → g.isOwn = true) (foreign : f.isOwn = false)
    (reached : before.length < cs.length) :
    options cs (before ++ .error f :: after) = .error f := by
  induction before generalizing cs with
  | nil =>
    obtain _ | ⟨c, cs⟩ := cs
    · cases reached
    · rw [List.nil_append, options_cons]
      simp [profileOf, foreign, Except.bind]
  | cons r before ih =>
    obtain _ | ⟨c, cs⟩ := cs
    · cases reached
    · rw [List.cons_append, options_cons,
        ih (fun g member => own g (.tail _ member)) (Nat.lt_of_succ_lt_succ reached)]
      cases r with
      | ok p => rfl
      | error g =>
        simp only [profileOf, own g (.head _), if_true]
        rfl

theorem Pursues.gathers {cs : List Commander} (P : Pursues env (cs.map (·.userId)) log s)
    (take : Takes s .callerResumes u) : Gathers env cs log (options cs (u.found cs.length)) := by
  obtain ⟨outcomes, count, sent, given, found⟩ := P.resumed take
  rw [List.length_map] at count found
  refine ⟨outcomes, count, sent, given, P.replies, fun own => ?_, ?_⟩
  · rw [found, options_of_own own]
  · rintro before f after split own foreign
    rw [found, split]
    refine options_of_foreign own foreign ?_
    rw [← count, split, List.length_append, List.length_cons]
    omega

/-! ## Along every course -/

/-- What holds along a course. -/
def Holds (env : Backend σ δ) (outcome : Except Failure (List Commander)) (log : LookupLog) :
    Scene σ δ × Inquiry → Prop
  | (s, .commanders o) => o = outcome ∧ s.turnsOf .caller = [.callerResumes] ∧ log = []
  | (s, .profiles cs) => outcome = .ok cs ∧ Pursues env (cs.map (·.userId)) log s
  | (s, .ended answer) => s.turnsOf .caller = [] ∧ Concludes env outcome log answer

variable {outcome : Except Failure (List Commander)} {inquiry : Inquiry}
  {a b : Scene σ δ × Inquiry}

theorem Holds.proceed (env : Backend σ δ) (free : s.turnsOf .caller = [])
    (outcome : Except Failure (List Commander)) : Holds env outcome [] (s.proceed outcome) := by
  match outcome with
  | .error f => exact ⟨free, rfl, rfl⟩
  | .ok [] =>
    refine ⟨free, [], rfl, .refl _, .refl _, nofun, fun _ => rfl, fun before f after split => ?_⟩
    simp at split
  | .ok (c :: cs) => exact ⟨rfl, .start env free (by simp)⟩

theorem Holds.inquire (env : Backend σ δ) (free : s.turnsOf .caller = []) :
    Holds env (env.provider.commanders s.source s.board.query.team).1.outcome []
      (s.inquire env) := by
  unfold Scene.inquire
  dsimp only
  split
  · exact .proceed (s := { s with source := (env.provider.commanders s.source _).2 }) env free _
  · have asleep := turnsOf_sleep { s with source :=
      (env.provider.commanders s.source s.board.query.team).2 }
      (env.provider.commanders s.source s.board.query.team).1.after .callerResumes .caller
    refine ⟨rfl, List.perm_singleton.1 (asleep.trans (.of_eq ?_)), rfl⟩
    exact congrArg (Turn.callerResumes :: ·) free

theorem Holds.apart (holds : Holds env outcome log (s, inquiry)) (apart : Apart s t) :
    Holds env outcome log (t, inquiry) := by
  cases inquiry with
  | commanders o =>
    obtain ⟨same, turns, none⟩ := holds
    exact ⟨same, List.perm_singleton.1 (turns ▸ apart.turns), none⟩
  | profiles cs => exact ⟨holds.1, holds.2.apart apart⟩
  | ended answer =>
    obtain ⟨free, concludes⟩ := holds
    exact ⟨(free ▸ apart.turns).eq_nil, concludes⟩

theorem Holds.own (holds : Holds env outcome log a) (move : InquiryMove env a more b) :
    Holds env outcome (log ++ more) b := by
  cases move with
  | @told s u o take =>
    obtain ⟨rfl, turns, rfl⟩ := holds
    exact .proceed env ((Waits.resumption turns).resumes take) o
  | @turn s u turn inquiry take kind other =>
    have member : turn ∈ s.turnsOf .caller := by
      have before := turnsOf_of_perm take.turns .caller
      rw [if_pos kind] at before
      exact before.symm.subset (.head _)
    cases inquiry with
    | commanders o => exact absurd (List.mem_singleton.1 (holds.2.1 ▸ member)) other
    | profiles cs => exact ⟨holds.1, holds.2.takes take kind other⟩
    | ended answer => exact absurd (holds.1 ▸ member) List.not_mem_nil
  | @resumed s u cs take =>
    obtain ⟨rfl, P⟩ := holds
    rw [List.append_nil]
    exact ⟨P.waits.resumes take, P.gathers take⟩

theorem Holds.accompanied (holds : Holds env outcome log a) (step : Accompanied env a more b) :
    Holds env outcome (log ++ more) b := by
  cases step with
  | alone step =>
    cases step with
    | own move => exact holds.own move
    | turn inquiry take kind =>
      rw [List.append_nil]
      exact holds.apart (.of_run env take kind)
  | act s inquiry a =>
    rw [List.append_nil]
    exact holds.apart (.attempt s a)
  | type s inquiry term =>
    rw [List.append_nil]
    exact holds.apart (.type s term)
  | elsewhere inquiry apart =>
    rw [List.append_nil]
    exact holds.apart apart

/-! ## To the end -/

/-- Of itself, a caller who waits comes to the turn that tells it to go on. -/
theorem Waits.inquires (waits : Waits s) (env : Backend σ δ) (inquiry : Inquiry) :
    ∃ log v, Runs (Inquires env) (s, inquiry) log (v, inquiry) ∧
      Takes v .callerResumes (s.untilResumed env) := by
  obtain ⟨v, ⟨log, run⟩, -, last⟩ := waits.comes env (Nat.le_refl _)
    (P := fun v => ∃ log, Runs (Inquires env) (s, inquiry) log (v, inquiry)) ⟨[], .start⟩ <| by
      rintro v u turn ⟨log, run⟩ take other
      by_cases kind : turn.kind = .caller
      · exact ⟨_, run.step (.own (.turn inquiry take kind other))⟩
      · exact ⟨_, run.step (.turn inquiry take kind)⟩
  exact ⟨log, v, run, last⟩

/-- The answer when the caller is told the commanders, and the scene then. -/
def answered (env : Backend σ δ) (s : Scene σ δ) :
    Except Failure (List Commander) → Except Failure (List UserProfile) × Scene σ δ
  | .error f => (if f.isOwn then .ok [] else .error f, s)
  | .ok cs =>
    let looked := s.lookUp env (cs.map (·.userId))
    (options cs looked.1, looked.2)

theorem commanderOptions_of_asked {reply : Reply (List Commander)} {source : σ}
    (asked : env.provider.commanders s.source s.board.query.team = (reply, source)) :
    s.commanderOptions env =
      ({ s with source := source }.pause env reply.after).answered env reply.outcome := by
  obtain ⟨after, outcome⟩ := reply
  unfold commanderOptions
  rw [asked]
  cases outcome <;> rfl

theorem lookUp_found (env : Backend σ δ) (someone : ids ≠ []) :
    (s.lookUp env ids).1 = ((s.lookingUp ids).untilResumed env).found ids.length := by
  simp only [lookUp, someone, if_false]
  rfl

theorem proceed_answered (env : Backend σ δ) (free : s.turnsOf .caller = [])
    (outcome : Except Failure (List Commander)) :
    ∃ log, Runs (Inquires env) (s.proceed outcome) log
      ((s.answered env outcome).2, .ended (s.answered env outcome).1) := by
  match outcome with
  | .error f => exact ⟨[], .start⟩
  | .ok [] => exact ⟨[], .start⟩
  | .ok (c :: cs) =>
    have someone : (c :: cs).map (·.userId) ≠ [] := by simp
    obtain ⟨log, v, run, last⟩ :=
      (Waits.lookingUp free someone).inquires env (.profiles (c :: cs))
    refine ⟨log ++ [], ?_⟩
    simp only [answered]
    rw [lookUp_found env someone, lookUp_scene env someone, List.length_map]
    exact run.step (.own (.resumed last))

theorem commanderOptions_inquires (env : Backend σ δ) (free : s.turnsOf .caller = []) :
    ∃ log, Runs (Inquires env) (s.inquire env) log
      ((s.commanderOptions env).2, .ended (s.commanderOptions env).1) := by
  rcases asked : env.provider.commanders s.source s.board.query.team with
    ⟨⟨after, outcome⟩, source⟩
  rw [commanderOptions_of_asked asked, inquire, asked]
  dsimp only
  by_cases now : after = 0
  · rw [pause, if_pos now, if_pos now]
    exact proceed_answered (s := { s with source := source }) env free outcome
  · rw [pause, if_neg now, if_neg now]
    have turns : (({ s with source := source } : Scene σ δ).sleep after .callerResumes).turnsOf
        .caller = [.callerResumes] := by
      have asleep := turnsOf_sleep { s with source := source } after .callerResumes .caller
      refine List.perm_singleton.1 (asleep.trans (.of_eq ?_))
      exact congrArg (Turn.callerResumes :: ·) free
    have waits := Waits.resumption turns
    obtain ⟨log, v, run, last⟩ := waits.inquires env (.commanders outcome)
    obtain ⟨more, rest⟩ := proceed_answered env (waits.untilResumed env) outcome
    exact ⟨_, (run.step (.own (.told last))).trans rest⟩

/-- A course comes to its end of itself. -/
theorem Holds.ends (holds : Holds env outcome log a) :
    ∃ more t answer, Runs (Inquires env) a more (t, .ended answer) := by
  obtain ⟨s, inquiry⟩ := a
  cases inquiry with
  | commanders o =>
    obtain ⟨rfl, turns, -⟩ := holds
    have waits : Waits s := .resumption turns
    obtain ⟨log, v, run, last⟩ := waits.inquires env (.commanders o)
    obtain ⟨more, rest⟩ := proceed_answered env (waits.untilResumed env) o
    exact ⟨_, _, _, (run.step (.own (.told last))).trans rest⟩
  | profiles cs =>
    obtain ⟨log, v, run, last⟩ := holds.2.waits.inquires env (.profiles cs)
    exact ⟨_, _, _, run.step (.own (.resumed last))⟩
  | ended answer => exact ⟨_, _, _, .start⟩

/-! ## What stays as it is -/

/-- Query, list, search box and detail view stay, and so do the selections in the background. -/
structure Undisturbed (s t : Scene σ δ) : Prop where
  board : t.board = s.board
  search : t.search = s.search
  view : t.view = s.view
  started : t.started = s.started
  answers : t.answers = s.answers

namespace Undisturbed

theorem refl (s : Scene σ δ) : Undisturbed s s := ⟨rfl, rfl, rfl, rfl, rfl⟩

theorem trans (h : Undisturbed s t) (g : Undisturbed t u) : Undisturbed s u :=
  ⟨g.board.trans h.board, g.search.trans h.search, g.view.trans h.view,
    g.started.trans h.started, g.answers.trans h.answers⟩

theorem of_take (take : Takes s turn u) : Undisturbed s u := by
  rw [take.scene]
  exact ⟨rfl, rfl, rfl, rfl, rfl⟩

theorem sendLookups (s : Scene σ δ) (people : List (String × Nat)) :
    Undisturbed s (s.sendLookups people) := by
  induction people generalizing s with
  | nil => exact refl s
  | cons x rest ih =>
    have posted : Undisturbed s (s.post (.lookupOpens x.2 x.1)) := ⟨rfl, rfl, rfl, rfl, rfl⟩
    exact posted.trans (ih _)

theorem proceed (s : Scene σ δ) (outcome : Except Failure (List Commander)) :
    Undisturbed s (s.proceed outcome).1 := by
  match outcome with
  | .error f => exact refl s
  | .ok [] => exact refl s
  | .ok (c :: cs) =>
    have reset : Undisturbed s
        { s with profiles := [], awaited := ((c :: cs).map (·.userId)).length } :=
      ⟨rfl, rfl, rfl, rfl, rfl⟩
    exact reset.trans (sendLookups _ _)

theorem inquire (env : Backend σ δ) (s : Scene σ δ) : Undisturbed s (s.inquire env).1 := by
  unfold Scene.inquire
  obtain ⟨reply, source⟩ := env.provider.commanders s.source s.board.query.team
  have asked : Undisturbed s { s with source := source } := ⟨rfl, rfl, rfl, rfl, rfl⟩
  dsimp only
  split
  · exact asked.trans (proceed _ _)
  · exact asked.trans ⟨rfl, rfl, rfl, rfl, rfl⟩

theorem run (env : Backend σ δ) (u : Scene σ δ) (kind : turn.kind = .caller) :
    Undisturbed u (u.run env turn) := by
  cases turn with
  | lookupOpens number id =>
    simp only [Scene.run, openLookup]
    split <;> exact ⟨rfl, rfl, rfl, rfl, rfl⟩
  | lookupReturns number o => exact ⟨rfl, rfl, rfl, rfl, rfl⟩
  | lookupSettles =>
    simp only [Scene.run, settleLookup]
    split <;> exact ⟨rfl, rfl, rfl, rfl, rfl⟩
  | callerResumes => exact refl u
  | _ => cases kind

end Undisturbed

/-- What a caller does to get on changes nothing else. -/
theorem InquiryMove.undisturbed (move : InquiryMove env a more b) : Undisturbed a.1 b.1 := by
  cases move with
  | told take => exact (Undisturbed.of_take take).trans (.proceed _ _)
  | turn inquiry take kind other => exact (Undisturbed.of_take take).trans (.run env _ kind)
  | resumed take => exact .of_take take

/-- A caller asks for the commanders of the team in force. Whatever happens meanwhile, and in
whatever order the outcomes arrive: it comes to an end of itself, and is told no options if that
call fails with an own failure, the failure if it is foreign, and else, when everyone was looked up
once and all lookups are over, a profile for each commander in order, or the first foreign failure.
So it is for the lookup of the commanders as it is made. What the caller does on the way leaves
query, list and detail view as they are. -/
theorem commanders_in_order (env : Backend σ δ) (free : s.turnsOf .caller = []) :
    (∀ log t answer, Runs (Accompanied env) (s.inquire env) log (t, .ended answer) →
        Concludes env (env.provider.commanders s.source s.board.query.team).1.outcome log answer) ∧
      (∀ log a, Runs (Accompanied env) (s.inquire env) log a →
        ∃ more t answer, Runs (Inquires env) a more (t, .ended answer)) ∧
      (∃ log, Runs (Inquires env) (s.inquire env) log
        ((s.commanderOptions env).2, .ended (s.commanderOptions env).1)) ∧
      Undisturbed s (s.inquire env).1 ∧
        ∀ a more b, InquiryMove env a more b → Undisturbed a.1 b.1 := by
  have holds (log a) (run : Runs (Accompanied env) (s.inquire env) log a) :
      Holds env (env.provider.commanders s.source s.board.query.team).1.outcome log a :=
    run.invariant (.inquire env free) fun step holds => holds.accompanied step
  exact ⟨fun log t answer run => (holds _ _ run).2, fun log a run => (holds log a run).ends,
    commanderOptions_inquires env free, .inquire env s, fun a more b move => move.undisturbed⟩

/-- Another team is chosen while the lookups run. The second one is over first, and fails. -/
theorem commanders_in_order_of_team_switch :
    let env : Backend Script Roster := ⟨Script.provider, Roster.directory⟩
    let ann : Json := .object [("id", .text "u1"), ("username", .text "ann")]
    let roster : Roster := ⟨[("u1", [⟨20, some (.ok ann)⟩]),
      ("u2", [⟨5, some (.error (.integration "users" "down"))⟩])]⟩
    let listed := ["u1", "u2", "u1"].map fun id => Json.object [("user_id", .text id)]
    let script : Script := ⟨[], [], [⟨0, some (.ok (.list listed))⟩], [], []⟩
    let s := Scene.start script roster (.first "t" 15 (by decide)) 300 true
    let answer : Except Failure (List UserProfile) :=
      .ok [⟨"u1", "ann", "", "", ""⟩, .bare "u2", ⟨"u1", "ann", "", "", ""⟩]
    s.turnsOf .caller = [] ∧
      ∃ log t, Runs (Accompanied env) (s.inquire env) log (t, .ended answer) ∧
        t.board.query.team = "t2" ∧
        Gathers env [⟨"u1", ""⟩, ⟨"u2", ""⟩, ⟨"u1", ""⟩] log answer := by
  intro env ann roster listed script s answer
  have free : s.turnsOf .caller = [] := rfl
  let cs : List Commander := [⟨"u1", ""⟩, ⟨"u2", ""⟩, ⟨"u1", ""⟩]
  let looking := s.lookingUp ["u1", "u2", "u1"]
  let switched := looking.attempt (.setTeam (.text "t2"))
  have asked : s.inquire env = (looking, .profiles cs) := rfl
  have waits : Waits switched :=
    (Waits.lookingUp free (by simp)).congr (Apart.attempt looking _).awaited
      (Apart.attempt looking _).turns
  obtain ⟨log, v, run, last⟩ := waits.inquires env (.profiles cs)
  have course := (Runs.one (Accompanied.act looking (.profiles cs) (.setTeam (.text "t2")))).trans
    ((run.step (.own (.resumed last))).mono .alone)
  have told : options cs ((switched.untilResumed env).found cs.length) = answer := by
    have evaluated : (options cs ((switched.untilResumed env).found cs.length)).toOption =
        some [⟨"u1", "ann", "", "", ""⟩, .bare "u2", ⟨"u1", "ann", "", "", ""⟩] := by
      decide +kernel
    cases told : options cs ((switched.untilResumed env).found cs.length) with
    | error f => simp [told, Except.toOption] at evaluated
    | ok profiles => simpa [told, Except.toOption, answer] using evaluated
  rw [told, ← asked] at course
  exact ⟨free, _, _, course, by decide +kernel, (commanders_in_order env free).1 _ _ _ course⟩

end Scene

end IncidentBoard
