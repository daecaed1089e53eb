import IncidentBoard.Failure
import IncidentBoard.Screen.Element

/-!
# Rendering

A run of a page shows elements one after the other and acts on some state on the way. Widgets
answer what the user entered, or the value they are shown with; a press of a button is answered
once. A run ends at its end, at a failure, or where it asks for another run.

## Main definitions

* `Gestures` — what the user did before a run.
* `Stop`, `Run`, `Render` — why a run stops early, what it has to work on, and a part of a run.
* `Render.show` and the widgets `Render.textInput`, `Render.choose`, `Render.press` and their like.
* `Render.within` — a part of a run that acts on a part of the state.
-/

namespace IncidentBoard.Screen

/-- What the user did: the button pressed, and the values entered by the labels of widgets. -/
structure Gestures where
  pressed : Option String
  entered : Json.Fields
  deriving Repr

def Gestures.none : Gestures := ⟨Option.none, []⟩

/-- Why a run stops early. -/
inductive Stop where
  | again
  | failed (failure : Failure)
  deriving Repr

/-- The state a run acts on, what it has shown, the groups of columns laid out, and what the user
did. -/
structure Run (ω : Type) where
  state : ω
  shown : List (Box × Element)
  groups : Nat
  gestures : Gestures

abbrev Render (ω α : Type) := ExceptT Stop (StateM (Run ω)) α

namespace Render

variable {ω τ α : Type}

/-! ## State and failures -/

def state : Render ω ω := do return (← get).state

def setState (s : ω) : Render ω Unit := modify fun run => { run with state := s }

/-- A value, or the end of the run. -/
def ofExcept (x : Except Failure α) : Render ω α :=
  match x with
  | .ok v => pure v
  | .error f => throw (.failed f)

def update (f : ω → Except Failure ω) : Render ω Unit := do
  setState (← ofExcept (f (← state)))

/-- Change the state, which may give a failure beside its new value. -/
def act (f : ω → Except Failure α × ω) : Render ω α := do
  let (outcome, s) := f (← state)
  setState s
  ofExcept outcome

/-- A part of a run that acts on a part of the state; it does nothing where that is missing. -/
def within (read : τ → Option ω) (write : ω → τ → τ) (part : Render ω Unit) : Render τ Unit :=
  fun run =>
    match read run.state with
    | none => (.ok (), run)
    | some s =>
      let (outcome, inner) := part { run with state := s }
      (outcome, { inner with state := write inner.state run.state })

/-! ## Elements -/

def showIn (box : Box) (e : Element) : Render ω Unit :=
  modify fun run => { run with shown := run.shown ++ [(box, e)] }

def textIn (box : Box) (kind : TextKind) (content : String) : Render ω Unit :=
  showIn box (.text kind content)

def text (kind : TextKind) (content : String) : Render ω Unit := textIn .main kind content

/-- Lay out a group of columns: the box of each column. -/
def columns (split : Split) : Render ω (Nat → Box) := do
  showIn .main (.columns split)
  let group := (← get).groups + 1
  modify fun run => { run with groups := group }
  return Box.column group

/-- End the run; another one follows. -/
def again : Render ω α := do
  showIn .main .rerun
  throw .again

/-! ## Widgets -/

def entered? (label : String) : Render ω (Option Json) := do
  return (← get).gestures.entered.get? label

def textOf (value : String) : Option Json → String
  | some (.text s) => s
  | some .null => ""
  | _ => value

def truthOf (value : Bool) : Option Json → Bool
  | some (.bool b) => b
  | _ => value

/-- The whole number of an entry; what follows the point is dropped. -/
def wholeOf (value : Int) : Option Json → Int
  | some (.int n) => n
  | some (.bool b) => if b then 1 else 0
  | some (.real x) =>
    match x.ratio? with
    | some (n, d) => n.tdiv d
    | none => value
  | _ => value

/-- The index of an entry, among so many options. -/
def indexOf (count index : Nat) : Option Json → Nat
  | some (.int n) => if 0 ≤ n ∧ n < count then n.toNat else index
  | _ => index

def textInput (box : Box) (label value : String) : Render ω String := do
  showIn box (.textInput label value)
  return textOf value (← entered? label)

def numberInput (label : String) (least most value : Int) : Render ω Int := do
  showIn .main (.numberInput label least most value)
  return wholeOf value (← entered? label)

def checkbox (label : String) (value : Bool) : Render ω Bool := do
  showIn .main (.checkbox label value)
  return truthOf value (← entered? label)

/-- A choice: the index of the option chosen. -/
def choose (box : Box) (c : Choice) : Render ω Nat := do
  showIn box (.choice c)
  return indexOf c.options.length c.index (← entered? c.label)

/-- A button: whether it was pressed. A press is answered once. -/
def press (box : Box) (b : Button) : Render ω Bool := do
  showIn box (.button b)
  let run ← get
  if b.enabled ∧ run.gestures.pressed = some b.handle then
    set { run with gestures := { run.gestures with pressed := none } }
    return true
  else return false

end Render

end IncidentBoard.Screen
