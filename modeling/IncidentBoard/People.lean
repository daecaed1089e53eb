import IncidentBoard.Field

/-!
# People

Commanders of incidents and the profiles under which they are shown.

## Main definitions

* `Commander`, `UserProfile` and their readers.
* `UserProfile.displayName` — the name under which a person is shown.
-/

namespace IncidentBoard

open IncidentBoard.Field

/-- A person who commands an incident. -/
structure Commander where
  userId : String
  username : String
  deriving DecidableEq, Repr, Inhabited

namespace Commander

def model : String := "Commander"

def readFields (fs : Json.Fields) : Reading Commander :=
  Reading.and (Reading.and (.ok Commander.mk) (required fs "user_id" text))
    (optional fs "username" "" text)

def read (v : Json) : Except Rejection Commander := (object model readFields v).of model

/-- A commander of whom only the id is known. -/
def ofId (id : String) : Commander := ⟨id, ""⟩

def toFields (x : Commander) : Json.Fields :=
  [("user_id", .text x.userId), ("username", .text x.username)]

end Commander

/-- A person as shown to others. -/
structure UserProfile where
  id : String
  username : String
  firstName : String
  lastName : String
  nickname : String
  deriving DecidableEq, Repr, Inhabited

namespace UserProfile

def model : String := "UserProfile"

def readFields (fs : Json.Fields) : Reading UserProfile :=
  Reading.and (Reading.and (Reading.and (Reading.and (Reading.and (.ok UserProfile.mk)
    (required fs "id" text))
    (optional fs "username" "" text))
    (optional fs "first_name" "" text))
    (optional fs "last_name" "" text))
    (optional fs "nickname" "" text)

def read (v : Json) : Except Rejection UserProfile := (object model readFields v).of model

/-- A profile of which only the id is known. -/
def bare (id : String) : UserProfile := ⟨id, "", "", "", ""⟩

def toFields (x : UserProfile) : Json.Fields :=
  [("id", .text x.id), ("username", .text x.username), ("first_name", .text x.firstName),
    ("last_name", .text x.lastName), ("nickname", .text x.nickname)]

/-- First and last name without blanks around them. -/
def fullName (x : UserProfile) : String :=
  Text.trim Text.isBlank (x.firstName ++ " " ++ x.lastName)

/-- The full name with the nickname behind it; else the first of nickname, username and id that
is not empty. -/
def displayName (x : UserProfile) : String :=
  let full := x.fullName
  if full ≠ "" ∧ x.nickname ≠ "" then s!"{full} ({x.nickname})"
  else if full ≠ "" then full
  else if x.nickname ≠ "" then x.nickname
  else if x.username ≠ "" then x.username
  else x.id

end UserProfile

end IncidentBoard
