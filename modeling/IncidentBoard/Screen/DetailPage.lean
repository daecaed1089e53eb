import IncidentBoard.DetailView
import IncidentBoard.EndTime
import IncidentBoard.Settings
import IncidentBoard.Screen.Render

/-!
# The page of one incident

An incident with its times; where its details are known, its channel, its numbers and the posts
that report on it.

## Main definitions

* `DetailPage.render` — the page, and whether the user closed it.
-/

namespace IncidentBoard.Screen

def zoneOf [TimeZones] (settings : Settings) : Except Failure Zone :=
  match Zone.named settings.timeZone with
  | .ok zone => .ok zone
  | .error unknown => .error (.foreign (.zone unknown))

def timeText (zone : Zone) (seconds : Int) : Except Failure String :=
  match Timestamp.format zone seconds with
  | .ok text => .ok text
  | .error flaw => .error (.foreign (.timestamp flaw))

/-- The word for the state of an incident. -/
def stateWord (x : Incident) : String := if x.isActive then "Ongoing" else "Ended"

namespace DetailPage

variable {ω : Type}

/-- The first of some texts that is not empty, or else the last one. -/
def firstGiven (texts : List (Option String)) (last : String) : String :=
  (texts.findSome? ListQuery.given?).getD last

def metrics (settings : Settings) (zone : Zone) (x : Incident) : Render ω Unit := do
  let column ← Render.columns (.even 3)
  Render.showIn (column 0) (.metric "Status" (stateWord x))
  Render.showIn (column 1) (.metric "Started" (← Render.ofExcept (timeText zone x.createdAt)))
  Render.showIn (column 2)
    (.metric "Ended" (← Render.ofExcept (EndTime.format x settings.cutoff zone)))

/-- A post; its time is in milliseconds. -/
def post (zone : Zone) (p : StatusPost) : Render ω Unit := do
  let time ← Render.ofExcept (timeText zone (p.createdAt.fdiv 1000))
  Render.text .write s!"- {time} ({p.postId})"

def details (zone : Zone) (d : IncidentDetail) : Render ω Unit := do
  let x := d.extras
  Render.showIn .main .divider
  let channel := firstGiven [x.channelDisplayName, x.channelName] d.incident.channel
  Render.text .write s!"**Channel:** {channel}"
  if let some team := ListQuery.given? x.teamName then
    Render.text .write s!"**Team:** {team}"
  Render.text .write s!"**Members:** {x.memberCount} · **Posts:** {x.postCount}"
  Render.text .subheader "Status updates"
  if x.statusPosts.isEmpty then Render.text .caption "No status updates yet."
  x.statusPosts.forM (post zone)

def backButton : Button := .keyed "← Back to incidents" "close-detail"

/-- Show a result: whether the user closed it. A result without an incident shows nothing. -/
def render [TimeZones] (settings : Settings) (r : DetailResult) : Render ω Bool := do
  let some x := r.incident? | return false
  let zone ← Render.ofExcept (zoneOf settings)
  let closed ← Render.press .main backButton
  Render.text .header x.name
  metrics settings zone x
  if x.description ≠ "" then Render.text .write x.description
  match r.detail? with
  | some d => details zone d
  | none =>
    Render.text .caption "Channel and status details are unavailable for this incident."
  return closed

end DetailPage

end IncidentBoard.Screen
