import IncidentBoard.Http.Url
import IncidentBoard.Failure

/-!
# Servers

A server that answers requests by path: each path has a list of answers, given one after the
other, the last one again and again. A request asks for JSON and may carry a token.

## Main definitions

* `Server.Answer` — a status with a body, or a connection that breaks.
* `Server` — the base address, the token, the answers and the requests received.
* `Server.get` — a request and what becomes of it.
-/

namespace IncidentBoard

/-- Take the next of some plans; the last one is taken again and again. -/
def nextPlan {α : Type} : List α → Option (α × List α)
  | [] => none
  | [a] => some (a, [a])
  | a :: rest => some (a, rest)

namespace Server

/-- What a response carries: a value already read, or octets. -/
inductive Body where
  | value (v : Json)
  | octets (os : List Nat)
  deriving Repr

/-- The value of a body, if it is JSON. -/
def Body.json? : Body → Option Json
  | .value v => some v
  | .octets os => Json.ofOctets? os

/-- How a request ends: with a response, without a connection, or with a failure of its own. -/
inductive Outcome where
  | response (status : Int) (body : Body)
  | unreachable (text : String)
  | raised (failure : Failure)
  deriving Repr

/-- An outcome, and the milliseconds after which it arrives. -/
structure Answer where
  after : Nat
  outcome : Outcome
  deriving Repr

/-- A request as it was received. -/
structure Received where
  origin : String
  target : String
  authorization : Option String
  deriving DecidableEq, Repr

end Server

/-- A base address, a token, the answers by path, and the requests received so far. Where there is
no server at all, nothing can be reached. -/
structure Server where
  base : Url
  token : String
  routes : Option (List (String × List Server.Answer))
  received : List Server.Received
  deriving Repr

namespace Server

def start (base token : String) (routes : Option (List (String × List Answer))) : Server :=
  ⟨Url.ofBase base, token, routes, []⟩

/-- The answer to requests for a path that has none. -/
def unrouted : Answer := ⟨0, .response 404 (.octets [])⟩

def unreachable : Answer := ⟨0, .unreachable "All connection attempts failed"⟩

/-- The header that carries a token, unless it is empty. -/
def authorization? (token : String) : Option String :=
  if token = "" then none else some ("Bearer " ++ token)

def take (path : String) : List (String × List Answer) → Answer × List (String × List Answer)
  | [] => (unrouted, [])
  | (p, plans) :: rest =>
    if p = path then
      match nextPlan plans with
      | some (a, plans) => (a, (p, plans) :: rest)
      | none => (unrouted, (p, plans) :: rest)
    else
      let (a, rest) := take path rest
      (a, (p, plans) :: rest)

/-- Send a request; the server keeps it. -/
def send (s : Server) (path : String) (query : Option String) : Answer × Server :=
  let url := s.base.below path query
  let received := s.received ++ [⟨url.origin, url.target, authorization? s.token⟩]
  match s.routes with
  | none => (unreachable, { s with received := received })
  | some routes =>
    let (answer, routes) := take url.route routes
    (answer, { s with routes := some routes, received := received })

/-- Why a request gives no value. -/
inductive Refusal where
  /-- There is nothing at that path. -/
  | notFound
  | failed (failure : Failure)
  deriving Repr

/-- The value that an outcome gives; `provider` is the one that asks, `path` what it asks for. -/
def valueOf (provider path : String) : Outcome → Except Refusal Json
  | .raised f => .error (.failed f)
  | .unreachable text => .error (.failed (.integration provider s!"GET {path} failed: {text}"))
  | .response status body =>
    if status = 404 then .error .notFound
    else if 400 ≤ status ∧ status ≤ 599 then
      .error (.failed (.integration provider s!"GET {path} returned {status}"))
    else
      match body.json? with
      | some v => .ok v
      | none => .error (.failed (.integration provider s!"GET {path} returned invalid JSON"))

/-- Ask for the value at a path: it, or why there is none, and after which time. -/
def get (s : Server) (provider path : String) (query : Option String) :
    Nat × Except Refusal Json × Server :=
  let (answer, s) := s.send path query
  (answer.after, valueOf provider path answer.outcome, s)

end Server

end IncidentBoard
