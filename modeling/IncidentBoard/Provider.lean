import IncidentBoard.ListQuery
import IncidentBoard.Incident
import IncidentBoard.People
import IncidentBoard.Failure

/-!
# Providers

Where incidents and people come from. A call has a reply: an outcome, and the time after which it
arrives. A provider may keep a state of its own.

## Main definitions

* `Reply` — an outcome and its delay.
* `Provider`, `Directory` — the calls on incidents, and those on people.
* `Backend` — both together.
-/

namespace IncidentBoard

/-- The outcome of a call, and the milliseconds after which it arrives. -/
structure Reply (α : Type) where
  after : Nat
  outcome : Except Failure α
  deriving Repr

namespace Reply

def now {α : Type} (outcome : Except Failure α) : Reply α := ⟨0, outcome⟩

end Reply

/-- Calls on incidents, each a function of the state of the provider. -/
structure Provider (σ : Type) where
  list : σ → ListQuery → Reply IncidentsPage × σ
  commanders : σ → String → Reply (List Commander) × σ
  detail : σ → String → Reply IncidentDetail × σ
  summary : σ → String → Reply Incident × σ

/-- Calls on people, each a function of the state of the directory. -/
structure Directory (δ : Type) where
  profile : δ → String → Reply UserProfile × δ

/-- Where incidents and people come from. -/
structure Backend (σ δ : Type) where
  provider : Provider σ
  directory : Directory δ

/-- A call on a provider. -/
inductive Request where
  | list (query : ListQuery)
  | commanders (team : String)
  | detail (id : String)
  | summary (id : String)
  deriving DecidableEq, Repr

namespace Provider

variable {σ : Type}

/-- A provider that keeps its calls in the order in which they start. -/
def recorded (p : Provider σ) : Provider (σ × List Request) where
  list s q := let (r, t) := p.list s.1 q; (r, t, s.2 ++ [.list q])
  commanders s team := let (r, t) := p.commanders s.1 team; (r, t, s.2 ++ [.commanders team])
  detail s id := let (r, t) := p.detail s.1 id; (r, t, s.2 ++ [.detail id])
  summary s id := let (r, t) := p.summary s.1 id; (r, t, s.2 ++ [.summary id])

end Provider

end IncidentBoard
