import IncidentBoard.Field

/-!
# Incidents

An incident as a list shows it, the same with what only its own view shows, and one page of a
list. Each has a reader and a written form, and the written form reads back as the same value.

## Main definitions

* `Incident`, `StatusPost`, `IncidentDetail`, `IncidentsPage`.
* `Incident.read`, `Incident.toFields` and their like.
-/

namespace IncidentBoard

open IncidentBoard.Field

/-! ## Incidents -/

/-- An incident as shown in a list; times are in seconds since 1 January 1970. -/
structure Incident where
  id : String
  name : String
  description : String
  isActive : Bool
  createdAt : Int
  endedAt : Int
  commander : String
  team : String
  channel : String
  deriving DecidableEq, Repr, Inhabited

namespace Incident

def readFields (fs : Json.Fields) : Reading Incident :=
  Reading.and (Reading.and (Reading.and (Reading.and (Reading.and (Reading.and (Reading.and
    (Reading.and (Reading.and (.ok Incident.mk)
      (required fs "id" text))
      (required fs "name" text))
      (optional fs "description" "" text))
      (optional fs "is_active" true truth))
      (optional fs "created_at" 0 whole))
      (optional fs "ended_at" 0 whole))
      (optional fs "commander_user_id" "" text))
      (optional fs "team_id" "" text))
      (optional fs "channel_id" "" text)

def model : String := "Incident"

def read (v : Json) : Except Rejection Incident := (object model readFields v).of model

def toFields (x : Incident) : Json.Fields :=
  [("id", .text x.id), ("name", .text x.name), ("description", .text x.description),
    ("is_active", .bool x.isActive), ("created_at", .int x.createdAt),
    ("ended_at", .int x.endedAt), ("commander_user_id", .text x.commander),
    ("team_id", .text x.team), ("channel_id", .text x.channel)]

end Incident

/-! ## Details -/

/-- A post that reports on an incident; its time is in milliseconds. -/
structure StatusPost where
  postId : String
  createdAt : Int
  deriving DecidableEq, Repr, Inhabited

namespace StatusPost

def model : String := "StatusPost"

def readFields (fs : Json.Fields) : Reading StatusPost :=
  Reading.and (Reading.and (.ok StatusPost.mk) (required fs "post_id" text))
    (required fs "created_at" whole)

def reader : Reader StatusPost := object model readFields

def read (v : Json) : Except Rejection StatusPost := (reader v).of model

def toJson (x : StatusPost) : Json :=
  .object [("post_id", .text x.postId), ("created_at", .int x.createdAt)]

end StatusPost

/-- What only the view of one incident shows. -/
structure IncidentExtras where
  channelName : Option String
  channelDisplayName : Option String
  teamName : Option String
  memberCount : Int
  postCount : Int
  statusPosts : List StatusPost
  deriving DecidableEq, Repr, Inhabited

/-- An incident with what only its own view shows. -/
structure IncidentDetail where
  incident : Incident
  extras : IncidentExtras
  deriving DecidableEq, Repr, Inhabited

namespace IncidentDetail

def model : String := "IncidentDetail"

/-- The fields beyond those of an incident, read together. -/
def readExtras (fs : Json.Fields) : Reading IncidentExtras :=
  Reading.and (Reading.and (Reading.and (Reading.and (Reading.and (Reading.and
    (.ok IncidentExtras.mk)
      (optional fs "channel_name" none (orNull text)))
      (optional fs "channel_display_name" none (orNull text)))
      (optional fs "team_name" none (orNull text)))
      (optional fs "num_members" 0 whole))
      (optional fs "total_posts" 0 whole))
      (optional fs "status_posts" [] (listOf StatusPost.reader))

def readFields (fs : Json.Fields) : Reading IncidentDetail :=
  Reading.and (Reading.and (.ok IncidentDetail.mk) (Incident.readFields fs)) (readExtras fs)

def read (v : Json) : Except Rejection IncidentDetail := (object model readFields v).of model

def extrasToFields (x : IncidentExtras) : Json.Fields :=
  [("channel_name", Json.ofText? x.channelName),
    ("channel_display_name", Json.ofText? x.channelDisplayName),
    ("team_name", Json.ofText? x.teamName), ("num_members", .int x.memberCount),
    ("total_posts", .int x.postCount),
    ("status_posts", .list (x.statusPosts.map StatusPost.toJson))]

def toFields (x : IncidentDetail) : Json.Fields :=
  x.incident.toFields ++ extrasToFields x.extras

end IncidentDetail

/-! ## Pages -/

/-- One page of a list, with the number of incidents on all pages. -/
structure IncidentsPage where
  items : List Incident
  total : Int
  deriving DecidableEq, Repr, Inhabited

namespace IncidentsPage

def model : String := "IncidentsPage"

def itemReader : Reader Incident := object Incident.model Incident.readFields

def readFields (fs : Json.Fields) : Reading IncidentsPage :=
  Reading.and (Reading.and (.ok IncidentsPage.mk) (optional fs "items" [] (listOf itemReader)))
    (optional fs "total_count" 0 whole)

def read (v : Json) : Except Rejection IncidentsPage := (object model readFields v).of model

def toFields (x : IncidentsPage) : Json.Fields :=
  [("items", .list (x.items.map fun i => .object i.toFields)), ("total_count", .int x.total)]

end IncidentsPage

end IncidentBoard
