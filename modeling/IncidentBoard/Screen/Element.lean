import IncidentBoard.ListQuery

/-!
# Elements of a screen

What a page shows, and where: in the main area, in the bar at the side, or in a column of a group
of columns. Groups are counted from one in the order in which a run lays them out.

## Main definitions

* `Box` — where an element stands.
* `Element` — what is shown.
-/

namespace IncidentBoard.Screen

/-- Where an element stands. -/
inductive Box where
  | main
  | sidebar
  | column (group index : Nat)
  deriving DecidableEq, Repr

/-- The kinds of running text. -/
inductive TextKind where
  | title
  | header
  | subheader
  | caption
  | write
  | info
  | warning
  | error
  | success
  deriving DecidableEq, Repr

/-- An entry of the navigation. -/
structure PageLink where
  title : String
  icon : String
  path : String
  isDefault : Bool
  deriving DecidableEq, Repr

/-- How the width is split into columns: evenly, or by weights. -/
inductive Split where
  | even (count : Nat)
  | weighted (weights : List Nat)
  deriving DecidableEq, Repr

/-- A choice of one of some options, as buttons side by side or as a list that opens. -/
structure Choice where
  label : String
  options : List (Option String)
  labels : List String
  index : Nat
  radio : Bool
  help : Option String
  disabled : Option Bool
  deriving DecidableEq, Repr

/-- A list that opens, with nothing said about it. -/
def Choice.select (label : String) (options : List (Option String)) (labels : List String)
    (index : Nat) : Choice := ⟨label, options, labels, index, false, none, none⟩

/-- A button. -/
structure Button where
  label : String
  key : Option String
  help : Option String
  disabled : Option Bool
  primary : Bool
  deriving DecidableEq, Repr

def Button.keyed (label key : String) : Button := ⟨label, some key, none, none, false⟩

/-- What a button is called by: its key, or its label if it has none. -/
def Button.handle (b : Button) : String := b.key.getD b.label

def Button.enabled (b : Button) : Bool := b.disabled != some true

/-- What is shown. -/
inductive Element where
  | navigation (links : List PageLink)
  | text (kind : TextKind) (content : String)
  | metric (label value : String)
  | divider
  | columns (split : Split)
  | textInput (label value : String)
  | numberInput (label : String) (least most value : Int)
  | checkbox (label : String) (value : Bool)
  | choice (c : Choice)
  | button (b : Button)
  /-- The run ends and another one follows. -/
  | rerun
  deriving DecidableEq, Repr

end IncidentBoard.Screen
