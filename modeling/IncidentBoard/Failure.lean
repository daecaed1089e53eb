import IncidentBoard.Field
import IncidentBoard.Timestamp

/-!
# Failures

Everything that can go wrong, by cause. The board's own failures are told apart from values that
are rejected and from failures that come from outside: an own failure may be shown in place of the
answer, the others pass through.

## Main definitions

* `Foreign` — the causes from outside, each with a `Foreign.kind` and a `Foreign.message`.
* `Failure` — every cause, with `Failure.message` and `Failure.isOwn`.
-/

namespace IncidentBoard

/-- The kinds of failures from outside. -/
inductive ForeignKind where
  | value
  | type
  | key
  | attribute
  | overflow
  | zeroDivision
  | system
  | runtime
  | connection
  | timeout
  | database
  | address
  | zone
  deriving DecidableEq, Repr

/-- The causes of failures from outside. -/
inductive Foreign where
  /-- A value was handed over that is no action on a query. -/
  | unknownAction (value : Json)
  /-- A value names no column to sort by. -/
  | notAColumn (value : Json)
  /-- A count of seconds has no local date. -/
  | timestamp (flaw : Timestamp.Flaw)
  /-- A key names no time zone. -/
  | zone (unknown : Zone.Unknown)
  /-- A number was divided by zero. -/
  | divisionByZero
  /-- A quotient is beyond the largest number. -/
  | quotientTooLarge
  /-- A value that is no object was asked for a member. -/
  | noMember (typeWord member : String)
  /-- A value that is no list was walked through. -/
  | notIterable (typeWord : String)
  /-- A value that holds nothing was searched. -/
  | notSearchable (typeWord : String)
  /-- A value that is no object was merged into one. -/
  | notMapping (typeWord : String)
  /-- An object lacks a name. -/
  | missingKey (key : String)
  /-- A list was asked for a name. -/
  | listIndex
  /-- A text was asked for a name. -/
  | textIndex
  /-- A value that holds nothing was asked for a name. -/
  | notSubscriptable (typeWord : String)
  /-- Two values cannot be divided. -/
  | operands (left right : String)
  /-- A whole number has too many digits to be read. -/
  | tooManyDigits (count : Nat)
  /-- A whole number does not fit a column of the store. -/
  | integerTooLarge
  /-- A text holds half of a pair, which no encoding takes. -/
  | unencodable (text : LooseText)
  /-- The file of the store cannot be opened. -/
  | cannotOpen
  /-- The address of the store cannot be read. -/
  | badAddress
  /-- A word names no level of the log. -/
  | logLevel (name : String)
  /-- A failure that was asked for, with what it was given. -/
  | scripted (kind : ForeignKind) (args : List Json)
  deriving Repr

namespace Foreign

def kind : Foreign → ForeignKind
  | .unknownAction _ => .type
  | .notAColumn _ => .value
  | .timestamp (.yearRange _) => .value
  | .timestamp .beyondYears => .system
  | .timestamp _ => .overflow
  | .zone (.missing _) => .zone
  | .zone _ => .value
  | .divisionByZero => .zeroDivision
  | .quotientTooLarge => .overflow
  | .noMember _ _ => .attribute
  | .notIterable _ => .type
  | .notSearchable _ => .type
  | .notMapping _ => .type
  | .missingKey _ => .key
  | .listIndex => .type
  | .textIndex => .type
  | .notSubscriptable _ => .type
  | .operands _ _ => .type
  | .tooManyDigits _ => .value
  | .integerTooLarge => .overflow
  | .unencodable _ => .value
  | .cannotOpen => .database
  | .badAddress => .address
  | .logLevel _ => .value
  | .scripted kind _ => kind

/-- What was given to a failure, as one text: nothing, the one value, or all in parentheses. -/
def argsText : List Json → String
  | [] => ""
  | [v] => v.plain
  | vs => "(" ++ String.intercalate ", " (vs.map Json.literal) ++ ")"

/-- Where the first halves of a text stand, one or several in a row. -/
def unencodableText (t : LooseText) : String :=
  let first := (t.codes.takeWhile fun code => !Text.isHalf code).length
  let halves := (t.codes.drop first).takeWhile Text.isHalf
  let place := match halves with
    | [code] => "character '\\u" ++ Text.hex 4 code ++ s!"' in position {first}"
    | _ => s!"characters in position {first}-{first + halves.length - 1}"
  s!"'utf-8' codec can't encode {place}: surrogates not allowed"

def message : Foreign → String
  | .unknownAction v => "Unknown action: " ++ v.literal
  | .notAColumn v => v.literal ++ " is not a valid SortColumn"
  | .timestamp flaw => flaw.message
  | .zone u =>
    match u with
    | .missing _ => Text.quoted u.message
    | _ => u.message
  | .divisionByZero => "division by zero"
  | .quotientTooLarge => "integer division result too large for a float"
  | .noMember t m => s!"'{t}' object has no attribute '{m}'"
  | .notIterable t => s!"'{t}' object is not iterable"
  | .notSearchable t => s!"argument of type '{t}' is not iterable"
  | .notMapping t => s!"'{t}' object is not a mapping"
  | .missingKey key => Text.quoted key
  | .listIndex => "list indices must be integers or slices, not str"
  | .textIndex => "string indices must be integers, not 'str'"
  | .notSubscriptable t => s!"'{t}' object is not subscriptable"
  | .operands l r => s!"unsupported operand type(s) for //: '{l}' and '{r}'"
  | .tooManyDigits count => (Json.Refusal.tooManyDigits count).message []
  | .integerTooLarge => "Python int too large to convert to SQLite INTEGER"
  | .unencodable text => unencodableText text
  | .cannotOpen => "(sqlite3.OperationalError) unable to open database file"
  | .badAddress => "Could not parse SQLAlchemy URL from given URL string"
  | .logLevel name => "Unknown level: " ++ Text.quoted name
  | .scripted kind args =>
    match kind, args with
    | .key, [v] => v.literal
    | _, _ => argsText args

end Foreign

/-- Everything that can go wrong. -/
inductive Failure where
  /-- An own failure of no further kind. -/
  | board (args : List Json)
  /-- The configuration is invalid or incomplete. -/
  | configuration (text : String)
  /-- A provider failed. -/
  | integration (provider text : String)
  /-- A provider has no incident of that id. -/
  | noIncident (provider id : String)
  /-- No provider is known for a category, or for its mode. -/
  | noProvider (category : String) (mode : Option String)
  /-- An action does not fit the state of the view. -/
  | transition (state action : String)
  /-- The store rejected a write. -/
  | persistence (table reason : String)
  /-- A value is not of its model. -/
  | rejected (rejection : Field.Rejection)
  /-- A failure from outside. -/
  | foreign (cause : Foreign)
  deriving Repr

namespace Failure

def message : Failure → String
  | .board args => Foreign.argsText args
  | .configuration text => text
  | .integration provider text => s!"[{provider}] {text}"
  | .noIncident provider id => s!"[{provider}] Incident '{id}' not found"
  | .noProvider category mode =>
    let detail := match mode with
      | some m => if m = "" then "" else s!" (provider={m})"
      | none => ""
    s!"No provider found for category '{category}'{detail}"
  | .transition state action => s!"Cannot {action} while in state '{state}'"
  | .persistence table reason => s!"Insert into '{table}' failed: {reason}"
  | .rejected r => r.summary
  | .foreign cause => cause.message

/-- Whether a failure is one of the board's own. -/
def isOwn : Failure → Bool
  | .rejected _ => false
  | .foreign _ => false
  | _ => true

def ofRejection {α : Type} : Except Field.Rejection α → Except Failure α
  | .ok x => .ok x
  | .error r => .error (.rejected r)

theorem ofRejection_of_eq_ok_iff {α : Type} {model : String} {r : Field.Reading α} {x : α} :
    ofRejection (r.of model) = .ok x ↔ r = .ok x := by
  cases r <;> simp [ofRejection, Field.Reading.of]

theorem map_eq_ok_iff {α β : Type} {x : Except Failure α} {f : α → β} {y : β} :
    x.map f = .ok y ↔ ∃ a, x = .ok a ∧ f a = y := by
  cases x <;> simp [Except.map]

end Failure

end IncidentBoard
