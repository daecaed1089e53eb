import IncidentBoard.Agenda
import IncidentBoard.Board
import IncidentBoard.Debouncer
import IncidentBoard.DetailView
import IncidentBoard.Provider

/-!
# Scenes

A board, a search box and a detail view over one backend, in time. Whatever is under way is a turn
on the agenda: a search term that waits, a fetch, a selection, the lookup of a person. One caller
acts from outside; while it waits for a reply of its own, the turns of the others run.

## Main definitions

* `Turn` — what becomes due.
* `Scene` — the state of everything.
* `Scene.run` — one turn; `Scene.settle`, `Scene.advance`, `Scene.waitIdle` — many.
* `Scene.dispatch`, `Scene.type`, `Scene.select`, `Scene.commanderOptions` — what the caller does.
-/

namespace IncidentBoard

/-- What becomes due. -/
inductive Turn where
  /-- The quiet time of a search term begins. -/
  | searchOpens (ticket : Nat)
  /-- The quiet time of a search term is over. -/
  | searchFires (ticket : Nat)
  /-- A fetch is sent. -/
  | fetchOpens (fetch : Fetch)
  /-- The outcome of a fetch arrives. -/
  | fetchReturns (fetch : Fetch) (outcome : Except Failure IncidentsPage)
  /-- A fetch is no longer under way. -/
  | fetchRetires (fetch : Fetch)
  /-- A selection in the background begins. -/
  | selectOpens (number : Nat) (id : String)
  /-- The details for a selection in the background arrive. -/
  | detailReturns (number : Nat) (id : String) (outcome : Except Failure IncidentDetail)
  /-- The summary for a selection in the background arrives. -/
  | summaryReturns (number : Nat) (id : String) (outcome : Except Failure Incident)
  /-- The lookup of a person is sent. -/
  | lookupOpens (number : Nat) (id : String)
  /-- The profile of a person arrives. -/
  | lookupReturns (number : Nat) (outcome : Except Failure UserProfile)
  /-- The caller is told that a lookup is over. -/
  | lookupSettles
  /-- The caller goes on. -/
  | callerResumes
  deriving Repr

/-- How many turns a turn may lead to, itself included. -/
def Turn.weight : Turn → Nat
  | .searchOpens _ => 5
  | .searchFires _ => 4
  | .fetchOpens _ => 3
  | .fetchReturns _ _ => 2
  | .fetchRetires _ => 1
  | .selectOpens _ _ => 3
  | .detailReturns _ _ _ => 2
  | .summaryReturns _ _ _ => 1
  | .lookupOpens _ _ => 4
  | .lookupReturns _ _ => 3
  | .lookupSettles => 2
  | .callerResumes => 1

/-- The state of the backend, the agenda, the board with its search box, the detail view with the
selections made in the background and their answers, and the lookups the caller waits for. -/
structure Scene (σ δ : Type) where
  source : σ
  people : δ
  agenda : Agenda Turn
  board : Board
  search : Debouncer Json
  view : DetailView
  started : Nat
  answers : List (Nat × Except Failure DetailResult)
  profiles : List (Nat × Except Failure UserProfile)
  awaited : Nat

namespace Scene

variable {σ δ : Type}

def start (source : σ) (people : δ) (q : ListQuery) (quietTime : Int) (resetPage : Bool) :
    Scene σ δ :=
  { source := source, people := people, agenda := .empty, board := .start q resetPage,
    search := .idle quietTime, view := .start, started := 0, answers := [], profiles := [],
    awaited := 0 }

def busy (s : Scene σ δ) : Bool := s.search.pending || s.board.fetching

def post (s : Scene σ δ) (t : Turn) : Scene σ δ := { s with agenda := s.agenda.post t }

def sleep (s : Scene σ δ) (ms : Nat) (t : Turn) : Scene σ δ :=
  { s with agenda := s.agenda.sleep ms t }

/-! ## Turns -/

/-- An action on the board; the fetch it needs is posted. -/
def dispatch (s : Scene σ δ) (a : Action) : Except Failure (Scene σ δ) :=
  (s.board.dispatch a).map fun (b, fetch) =>
    let s := { s with board := b }
    match fetch with
    | some f => s.post (.fetchOpens f)
    | none => s

def finishFetch (s : Scene σ δ) (f : Fetch) (outcome : Except Failure IncidentsPage) :
    Scene σ δ :=
  { s with board := s.board.complete f outcome }.post (.fetchRetires f)

def openFetch (env : Backend σ δ) (s : Scene σ δ) (f : Fetch) : Scene σ δ :=
  let (reply, source) := env.provider.list s.source f.query
  let s := { s with source := source }
  if reply.after = 0 then s.finishFetch f reply.outcome
  else s.sleep reply.after (.fetchReturns f reply.outcome)

/-- The quiet time of a search term begins; one that is not positive lets the others go first. -/
def openSearch (s : Scene σ δ) (ticket : Nat) : Scene σ δ :=
  if 0 < s.search.delay then s.sleep s.search.delay.toNat (.searchFires ticket)
  else s.post (.searchFires ticket)

/-- The quiet time of a search term is over. A term that is refused changes nothing. -/
def fireSearch (s : Scene σ δ) (ticket : Nat) : Scene σ δ :=
  let (d, term) := s.search.fire ticket
  let s := { s with search := d }
  match term with
  | none => s
  | some v =>
    match s.dispatch (.setSearch v) with
    | .ok s => s
    | .error _ => s

/-- The answer to a selection in the background. -/
def answerSelect (s : Scene σ δ) (number : Nat) (answer : Except Failure DetailResult) :
    Scene σ δ :=
  { s with answers := s.answers ++ [(number, answer)] }

def finishSelect (s : Scene σ δ) (number : Nat) (r : DetailResult) : Scene σ δ :=
  { s with view := s.view.finish r }.answerSelect number (.ok r)

/-- The resolution that follows the outcome of the summary. -/
def summaryResolution : Except Failure Incident → Resolution
  | .ok i => .summary i
  | .error f => .failed f.message

/-- The details of a selection in the background failed: its summary is asked for. -/
def askSummary (env : Backend σ δ) (s : Scene σ δ) (number : Nat) (id : String) : Scene σ δ :=
  let (reply, source) := env.provider.summary s.source id
  let s := { s with source := source }
  if reply.after = 0 then s.finishSelect number ⟨id, summaryResolution reply.outcome⟩
  else s.sleep reply.after (.summaryReturns number id reply.outcome)

/-- The details of a selection in the background arrive. -/
def takeDetail (env : Backend σ δ) (s : Scene σ δ) (number : Nat) (id : String)
    (outcome : Except Failure IncidentDetail) : Scene σ δ :=
  match outcome with
  | .ok d => s.finishSelect number ⟨id, .detail d⟩
  | .error _ => s.askSummary env number id

def openSelect (env : Backend σ δ) (s : Scene σ δ) (number : Nat) (id : String) : Scene σ δ :=
  match s.view.begin? id with
  | .error f => s.answerSelect number (.error f)
  | .ok view =>
    let (reply, source) := env.provider.detail s.source id
    let s := { s with source := source, view := view }
    if reply.after = 0 then s.takeDetail env number id reply.outcome
    else s.sleep reply.after (.detailReturns number id reply.outcome)

def finishLookup (s : Scene σ δ) (number : Nat) (outcome : Except Failure UserProfile) :
    Scene σ δ :=
  { s with profiles := s.profiles ++ [(number, outcome)] }.post .lookupSettles

def openLookup (env : Backend σ δ) (s : Scene σ δ) (number : Nat) (id : String) : Scene σ δ :=
  let (reply, people) := env.directory.profile s.people id
  let s := { s with people := people }
  if reply.after = 0 then s.finishLookup number reply.outcome
  else s.sleep reply.after (.lookupReturns number reply.outcome)

/-- A lookup is over; after the last one the caller goes on. -/
def settleLookup (s : Scene σ δ) : Scene σ δ :=
  let s := { s with awaited := s.awaited - 1 }
  if s.awaited = 0 then s.post .callerResumes else s

def run (env : Backend σ δ) (s : Scene σ δ) : Turn → Scene σ δ
  | .searchOpens ticket => s.openSearch ticket
  | .searchFires ticket => s.fireSearch ticket
  | .fetchOpens f => s.openFetch env f
  | .fetchReturns f outcome => s.finishFetch f outcome
  | .fetchRetires f => { s with board := s.board.retire f }
  | .selectOpens number id => s.openSelect env number id
  | .detailReturns number id outcome => s.takeDetail env number id outcome
  | .summaryReturns number id outcome => s.finishSelect number ⟨id, summaryResolution outcome⟩
  | .lookupOpens number id => s.openLookup env number id
  | .lookupReturns number outcome => s.finishLookup number outcome
  | .lookupSettles => s.settleLookup
  | .callerResumes => s

/-! ## Runs -/

/-- A bound on the number of turns still to come. -/
def potential (s : Scene σ δ) : Nat := s.agenda.total Turn.weight

/-- Run the turns within a limit, as long as a condition holds and up to the turn of the caller;
`fuel` bounds their number. -/
def runWhile (env : Backend σ δ) (go : Scene σ δ → Bool) (limit : Option Nat) :
    Nat → Scene σ δ → Scene σ δ
  | 0, s => s
  | fuel + 1, s =>
    if go s then
      match s.agenda.next? limit with
      | none => s
      | some (.callerResumes, rest) => { s with agenda := rest }
      | some (turn, rest) => runWhile env go limit fuel (run env { s with agenda := rest } turn)
    else s

def settle (env : Backend σ δ) (s : Scene σ δ) : Scene σ δ :=
  s.runWhile env (fun _ => true) (some s.agenda.now) s.potential

/-- Let some milliseconds pass, and everything that is due by then happen. -/
def advance (env : Backend σ δ) (s : Scene σ δ) (ms : Nat) : Scene σ δ :=
  let time := s.agenda.now + ms
  let s := s.runWhile env (fun _ => true) (some time) s.potential
  { s with agenda := s.agenda.advanceTo time }

/-- Let time pass until no search term waits. -/
def waitSearch (env : Backend σ δ) (s : Scene σ δ) : Scene σ δ :=
  s.runWhile env (fun s => s.search.pending) none s.potential

/-- Let time pass until no fetch is under way. -/
def waitFetches (env : Backend σ δ) (s : Scene σ δ) : Scene σ δ :=
  s.runWhile env (fun s => s.board.fetching) none s.potential

/-- Let time pass until no search term waits, and then until no fetch is under way. -/
def waitIdle (env : Backend σ δ) (s : Scene σ δ) : Scene σ δ :=
  (s.waitSearch env).waitFetches env

/-- Let time pass until the caller goes on. -/
def untilResumed (env : Backend σ δ) (s : Scene σ δ) : Scene σ δ :=
  s.runWhile env (fun _ => true) none s.potential

/-- The caller waits for some milliseconds; for none it goes on at once. -/
def pause (env : Backend σ δ) (s : Scene σ δ) (ms : Nat) : Scene σ δ :=
  if ms = 0 then s else (s.sleep ms .callerResumes).untilResumed env

/-! ## The search box and the list -/

/-- A search term is typed; it counts when the quiet time has passed. -/
def type (s : Scene σ δ) (term : Json) : Scene σ δ :=
  let d := s.search.call term
  { s with search := d }.post (.searchOpens d.tickets)

def load (env : Backend σ δ) (s : Scene σ δ) : Except Failure (Scene σ δ) :=
  (s.dispatch .refresh).map (·.waitIdle env)

/-! ## The detail view -/

/-- Resolve an incident: its details, or its summary if they fail. -/
def resolve (env : Backend σ δ) (s : Scene σ δ) (id : String) : DetailResult × Scene σ δ :=
  let (reply, source) := env.provider.detail s.source id
  let s := { s with source := source }.pause env reply.after
  match reply.outcome with
  | .ok d => (⟨id, .detail d⟩, s)
  | .error _ =>
    let (reply, source) := env.provider.summary s.source id
    let s := { s with source := source }.pause env reply.after
    (⟨id, summaryResolution reply.outcome⟩, s)

/-- Select an incident and wait for its resolution. -/
def select (env : Backend σ δ) (s : Scene σ δ) (id : String) :
    Except Failure DetailResult × Scene σ δ :=
  match s.view.begin? id with
  | .error f => (.error f, s)
  | .ok view =>
    let (r, s) := { s with view := view }.resolve env id
    (.ok r, { s with view := s.view.finish r })

def startSelect (s : Scene σ δ) (id : String) : Scene σ δ :=
  { s with started := s.started + 1 }.post (.selectOpens s.started id)

/-- Whether a selection in the background has no answer yet. -/
def selecting (s : Scene σ δ) : Bool := s.answers.length < s.started

/-- The answers to the selections in the background, in the order in which they were made. -/
def selectAnswers (s : Scene σ δ) : List (Except Failure DetailResult) :=
  (List.range s.started).filterMap fun n => s.answers.lookup n

/-- Let time pass until every selection in the background has its answer. -/
def join (env : Backend σ δ) (s : Scene σ δ) : Scene σ δ :=
  s.runWhile env selecting none s.potential

def close (s : Scene σ δ) : Scene σ δ := { s with view := s.view.close }

/-! ## Commanders -/

/-- Look up people at the same time, and wait for all of them. -/
def lookUp (env : Backend σ δ) (s : Scene σ δ) (ids : List String) :
    List (Except Failure UserProfile) × Scene σ δ :=
  if ids = [] then ([], s)
  else
    let opened := ids.zipIdx.foldl (fun (s : Scene σ δ) (id, n) => s.post (.lookupOpens n id))
      { s with profiles := [], awaited := ids.length }
    let s := opened.untilResumed env
    ((List.range ids.length).filterMap fun n => s.profiles.lookup n, s)

/-- The profile shown for a commander: a failure of the board's own leaves the bare id. -/
def profileOf (c : Commander) : Except Failure UserProfile → Except Failure UserProfile
  | .ok p => .ok p
  | .error f => if f.isOwn then .ok (.bare c.userId) else .error f

/-- The profiles of everyone who commanded an incident of the team. -/
def commanderOptions (env : Backend σ δ) (s : Scene σ δ) :
    Except Failure (List UserProfile) × Scene σ δ :=
  let (reply, source) := env.provider.commanders s.source s.board.query.team
  let s := { s with source := source }.pause env reply.after
  match reply.outcome with
  | .error f => (if f.isOwn then .ok [] else .error f, s)
  | .ok commanders =>
    let (found, s) := s.lookUp env (commanders.map (·.userId))
    ((commanders.zip found).mapM fun (c, r) => profileOf c r, s)

/-! ## The end of a run -/

def abandon (s : Scene σ δ) : Scene σ δ :=
  { s with agenda := .empty, board := s.board.abandon, search := s.search.cancel }

end Scene

end IncidentBoard
