import IncidentBoard.Text.Percent

/-!
# Addresses of requests

An address is a server and a target on it. Requests name a path below the path of a base address;
a question mark in it starts a query, a number sign a part that is not sent, and dot segments are
resolved.

## Main definitions

* `Url` — scheme, server, path and query.
* `Url.ofBase` — the address of a base.
* `Url.below` — the address of a request.
* `Url.origin`, `Url.target`, `Url.route` — the server, what is sent to it, and the decoded path.
-/

namespace IncidentBoard

/-- An address; the path starts with a slash and is encoded, as is the query. -/
structure Url where
  scheme : String
  host : String
  port : Option String
  path : String
  query : Option String
  deriving DecidableEq, Repr

namespace Url

/-- Printable ASCII without the five characters that are encoded everywhere in an address. -/
def keptInQuery (c : Char) : Bool :=
  0x20 < c.toNat && c.toNat < 0x7F && !(['"', '#', '<', '>'].contains c)

def keptInPath (c : Char) : Bool :=
  keptInQuery c && !(['?', '\x60', '\x7b', '\x7d'].contains c)

/-- One segment after the segments before it, last first. -/
def resolveStep (segments : List String) (segment : String) : List String :=
  if segment = "." then segments
  else if segment = ".." then (if segments = [""] then segments else segments.drop 1)
  else segment :: segments

def resolve (path : String) : String :=
  String.intercalate "/" (((path.splitOn "/").foldl resolveStep []).reverse)

/-- The parts of a text before and behind the first character of a kind. -/
def splitAt (c : Char) (s : String) : String × Option String :=
  let before := s.toList.takeWhile (· ≠ c)
  let after := s.toList.drop before.length
  (String.ofList before, match after with
    | [] => none
    | _ :: rest => some (String.ofList rest))

/-- Ports that are left out of an address. -/
def defaultPorts : List (String × String) :=
  [("http", "80"), ("https", "443"), ("ws", "80"), ("wss", "443"), ("ftp", "21")]

/-- An encoded target, split into its path and its query, on the server of an address. -/
def withTarget (u : Url) (target : String) : Url :=
  let (path, query) := splitAt '?' target
  { u with
    path := Percent.encode keptInPath (resolve path)
    query := query.map (Percent.encode keptInQuery) }

/-- The part of a text in front of the first of some characters, and the rest. -/
def breakAt (stops : List Char) (s : String) : String × String :=
  let before := s.toList.takeWhile fun c => !stops.contains c
  (String.ofList before, String.ofList (s.toList.drop before.length))

def target (u : Url) : String :=
  u.path ++ (match u.query with
    | some q => "?" ++ q
    | none => "")

/-- The text without the slashes at its end. -/
def dropSlashes (s : String) : String :=
  String.ofList (s.toList.reverse.dropWhile (· == '/')).reverse

/-- The address of a base, of which slashes at the end do not count. -/
def ofBase (base : String) : Url :=
  let (head, rest) := splitAt ':' (dropSlashes base)
  let (scheme, rest) := match rest with
    | some r => (head.toLower, r)
    | none => ("", head)
  let rest := if rest.startsWith "//" then (rest.drop 2).toString else rest
  let (authority, rest) := breakAt ['/', '?', '#'] rest
  let server := (authority.splitOn "@").getLastD ""
  let (host, port) := splitAt ':' server
  let port := port.filter fun p => p ≠ "" ∧ defaultPorts.lookup scheme ≠ some p
  let (sent, _) := splitAt '#' rest
  let u : Url := withTarget ⟨scheme, host.toLower, port, "", none⟩ sent
  if u.target.endsWith "/" then u else u.withTarget (u.target ++ "/")

/-- The address of a path below a base; a query given with the request comes last. -/
def below (base : Url) (path : String) (query : Option String) : Url :=
  let (sent, _) := splitAt '#' path
  let (p, q) := splitAt '?' sent
  let p := Percent.encode keptInPath p
  let own := match q with
    | some q => "?" ++ Percent.encode keptInQuery q
    | none => ""
  let u := base.withTarget (base.target ++ String.ofList (p.toList.dropWhile (· == '/')) ++ own)
  match query with
  | some q => { u with query := some q }
  | none => u

def origin (u : Url) : String :=
  u.scheme ++ "://" ++ u.host ++ (match u.port with
    | some p => ":" ++ p
    | none => "")

def route (u : Url) : String := Percent.decode u.path

end Url

end IncidentBoard
