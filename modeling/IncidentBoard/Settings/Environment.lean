import IncidentBoard.Settings

/-!
# Settings from the environment

Settings are given directly, by environment variables, and by a file of assignments, in this order
of precedence. Names of variables do not depend on case.

An assignment is a name, an equals sign and a value up to the end of the line; `export` may stand
in front of it. Values may be in quotes, a number sign behind a blank starts a comment, and a name
in braces behind a dollar sign is replaced by the value of that variable.

## Main definitions

* `Environment.assignments` — the assignments of a file.
* `Environment.expand` — their values with names replaced.
* `Environment.settings` — the settings from all sources.
-/

namespace IncidentBoard.Environment

abbrev Variables := List (String × String)

/-! ## Files of assignments -/

def isLineBlank (c : Char) : Bool := Text.isBlank c && c != '\n' && c != '\r'

def isLineEnd (c : Char) : Bool := c == '\n' || c == '\r'

/-- What follows the end of the line that a text starts in. -/
def nextLine (cs : List Char) : List Char :=
  match cs.dropWhile fun c => !isLineEnd c with
  | '\r' :: '\n' :: rest => rest
  | _ :: rest => rest
  | [] => []

/-- The meaning of a character behind a backslash in double quotes. -/
def escapeOf? : Char → Option Char
  | '\\' => some '\\'
  | '\'' => some '\''
  | '"' => some '"'
  | 'a' => some '\x07'
  | 'b' => some '\x08'
  | 'f' => some '\x0c'
  | 'n' => some '\n'
  | 'r' => some '\r'
  | 't' => some '\t'
  | 'v' => some '\x0b'
  | _ => none

/-- The meaning of a character behind a backslash in single quotes. -/
def plainEscapeOf? : Char → Option Char
  | '\\' => some '\\'
  | '\'' => some '\''
  | _ => none

/-- The raw text up to the closing quote, and what follows it; an escaped quote closes nothing
unless no other one follows. -/
def quotedBody? (quote : Char) : List Char → Option (List Char × List Char)
  | [] => none
  | '\\' :: c :: rest =>
    if c = quote then
      match quotedBody? quote rest with
      | some (b, r) => some ('\\' :: c :: b, r)
      | none => some (['\\'], rest)
    else (quotedBody? quote (c :: rest)).map fun (b, r) => ('\\' :: b, r)
  | c :: rest =>
    if c = quote then some ([], rest)
    else (quotedBody? quote rest).map fun (b, r) => (c :: b, r)

def unescape (meaning : Char → Option Char) : List Char → List Char
  | '\\' :: c :: rest =>
    match meaning c with
    | some d => d :: unescape meaning rest
    | none => '\\' :: unescape meaning (c :: rest)
  | c :: rest => c :: unescape meaning rest
  | [] => []

/-- A value without quotes, up to a comment behind a blank. -/
def dropComment : List Char → List Char
  | [] => []
  | c :: rest =>
    if Text.isBlank c && (rest.dropWhile Text.isBlank).head? == some '#' then []
    else c :: dropComment rest

/-- The value behind an equals sign, and what follows it. -/
def valueOf? (cs : List Char) : Option (List Char × List Char) :=
  match cs with
  | '\'' :: rest =>
    (quotedBody? '\'' rest).map fun (b, r) => (unescape plainEscapeOf? b, r)
  | '"' :: rest => (quotedBody? '"' rest).map fun (b, r) => (unescape escapeOf? b, r)
  | _ =>
    let line := cs.takeWhile fun c => !isLineEnd c
    some (((dropComment line).reverse.dropWhile Text.isBlank).reverse, cs.drop line.length)

/-- What follows the word `export` and blanks, where they start a text. -/
def dropExport (cs : List Char) : List Char :=
  if "export".toList.isPrefixOf cs then
    let rest := cs.drop 6
    if (rest.head?.map isLineBlank).getD false then rest.dropWhile isLineBlank else cs
  else cs

/-- The name that a text starts with, and what follows it. -/
def nameOf? (cs : List Char) : Option (List Char × List Char) :=
  match cs with
  | '\'' :: rest =>
    let name := rest.takeWhile (· ≠ '\'')
    match rest.drop name.length with
    | _ :: after => if name = [] then none else some (name, after)
    | [] => none
  | _ =>
    let name := cs.takeWhile fun c => c ≠ '=' && c ≠ '#' && !Text.isBlank c
    if name = [] then none else some (name, cs.drop name.length)

/-- The end of a line, with a comment in front of it where there is one. -/
def lineEnd? (cs : List Char) : Option (List Char) :=
  let afterBlanks := cs.dropWhile isLineBlank
  let rest := if afterBlanks.head? = some '#' then cs.dropWhile fun c => !isLineEnd c
    else afterBlanks
  match rest with
  | [] => some []
  | '\r' :: '\n' :: r => some r
  | c :: r => if isLineEnd c then some r else none

/-- The assignment that a text starts with, if it is one, and what follows its line. -/
def assignment (cs : List Char) : Option (String × Option String) × List Char :=
  if cs.head? = some '#' then (none, nextLine cs)
  else
    let body := dropExport cs
    match nameOf? body with
    | none => (none, nextLine body)
    | some (name, rest) =>
      match rest.dropWhile isLineBlank with
      | '=' :: r =>
        let r := r.dropWhile isLineBlank
        match valueOf? r with
        | none => (none, nextLine r)
        | some (value, after) =>
          match lineEnd? after with
          | some next => (some (String.ofList name, some (String.ofList value)), next)
          | none => (none, nextLine after)
      | after =>
        match lineEnd? after with
        | some next => (some (String.ofList name, none), next)
        | none => (none, nextLine after)

/-- The assignments of a text; `fuel` bounds its lines. -/
def assignmentsFrom : Nat → List Char → List (String × Option String)
  | 0, _ => []
  | fuel + 1, cs =>
    match cs.dropWhile Text.isBlank with
    | [] => []
    | cs =>
      let (found, rest) := assignment cs
      found.toList ++ assignmentsFrom fuel rest

def assignments (file : String) : List (String × Option String) :=
  assignmentsFrom (file.toList.length + 1) file.toList

/-! ## Names inside values -/

/-- A value with every name in braces behind a dollar sign replaced; a default may follow the name
behind a colon and a dash. `fuel` bounds the characters. -/
def replaceNames (lookup : String → Option String) : Nat → List Char → List Char
  | 0, cs => cs
  | fuel + 1, cs =>
    match cs with
    | [] => []
    | '$' :: '\x7b' :: rest =>
      let name := rest.takeWhile fun c => c ≠ '\x7d' && c ≠ ':'
      let after := rest.drop name.length
      let resolve := fun (standby : List Char) (rest : List Char) =>
        ((lookup (String.ofList name)).map String.toList).getD standby ++
          replaceNames lookup fuel rest
      match after with
      | '\x7d' :: rest => resolve [] rest
      | ':' :: '-' :: rest =>
        let standby := rest.takeWhile (· ≠ '\x7d')
        match rest.drop standby.length with
        | _ :: rest => resolve standby rest
        | [] => '$' :: replaceNames lookup fuel ('\x7b' :: rest)
      | _ => '$' :: replaceNames lookup fuel ('\x7b' :: rest)
    | c :: rest => c :: replaceNames lookup fuel rest

/-- The variables of a file: each value may name variables of the environment and earlier ones of
the file, which come first. A name without a value has none. -/
def expand (env : Variables) : List (String × Option String) → Variables → Variables
  | [], known => known
  | (name, none) :: rest, known => expand env rest (known.filter (·.1 ≠ name))
  | (name, some value) :: rest, known =>
    let lookup := fun n => (known.lookup n).orElse fun _ => env.lookup n
    let value := String.ofList (replaceNames lookup (value.toList.length + 1) value.toList)
    expand env rest ((name, value) :: known.filter (·.1 ≠ name))

/-! ## Settings -/

/-- The value of a variable, whatever the case of its name; of several the last counts. -/
def valueOf (vars : Variables) (name : String) : Option String :=
  ((vars.filter fun v => Text.lowercase v.1 = name).getLast?).map (·.2)

def fields (vars : Variables) : Json.Fields :=
  Settings.names.filterMap fun name => (valueOf vars name).map fun v => (name, .text v)

def direct (given : Json.Fields) : Json.Fields :=
  given.filter fun f => Settings.names.contains f.1

/-- The settings from fields given directly, from variables and from a file. -/
def settings (given : Json.Fields) (env : Variables) (file : Option String) :
    Except Field.Rejection Settings :=
  let assigned := match file with
    | some text => (expand env (assignments text) []).reverse
    | none => []
  Settings.read (((fields assigned).merge (fields env)).merge (direct given))

end IncidentBoard.Environment
