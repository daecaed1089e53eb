import IncidentBoard.Debouncer.Timeline
import IncidentBoard.Json.Writer
import IncidentBoard.Provider.Scenario.Bundled
import IncidentBoard.Screen.Visit
import IncidentBoard.Store.Transaction
import IncidentBoard.Proofs.Scene.History
import IncidentBoard.Proofs.Scene.Run
import IncidentBoard.Proofs.Scene.Tracking
import IncidentBoard.Proofs.Scene.Potential
import IncidentBoard.Proofs.Scene.Idle
import IncidentBoard.Proofs.Answer.Filters
import IncidentBoard.Proofs.Answer.Order
import IncidentBoard.Proofs.Answer.Tiling
import IncidentBoard.Proofs.Text.Like
import IncidentBoard.Proofs.Store.Agreement
import IncidentBoard.Proofs.Lists
import IncidentBoard.Proofs.Agenda.Timing
import IncidentBoard.Proofs.Debouncer.Log
import IncidentBoard.Proofs.Query.Change
import IncidentBoard.Proofs.Query.ClosedForm
import IncidentBoard.Proofs.Debouncer.Schedule
import IncidentBoard.Proofs.Debouncer.Run
import IncidentBoard.Proofs.Scene.Calls
import IncidentBoard.Proofs.Store.Atomic
import IncidentBoard.Proofs.Store.ReadBack
import IncidentBoard.Proofs.Remote.Contained
import IncidentBoard.Proofs.Incident.Written
import IncidentBoard.Proofs.Store.Ledger
import IncidentBoard.Proofs.Text.Digits
import IncidentBoard.Proofs.Text.Form
import IncidentBoard.Proofs.Json.RoundTrip
import IncidentBoard.Proofs.Query.Sent
import IncidentBoard.Proofs.Remote.Transparent
import IncidentBoard.Proofs.DetailView.Courses
import IncidentBoard.Proofs.Scene.Selections
import IncidentBoard.Proofs.Scene.Selected
import IncidentBoard.Proofs.Store.Integrity
import IncidentBoard.Proofs.Store.Readable
import IncidentBoard.Proofs.Scene.Quiet
import IncidentBoard.Proofs.Screen.Parts
import IncidentBoard.Proofs.Screen.Untouched
import IncidentBoard.Proofs.Text.Lowercase
import IncidentBoard.Proofs.Store.Search
import IncidentBoard.Proofs.Scene.Closing
import IncidentBoard.Proofs.Scene.Opening
import IncidentBoard.Proofs.Query.Refines
import IncidentBoard.Proofs.Scene.Callers
import IncidentBoard.Proofs.Scene.Past
import IncidentBoard.Proofs.Scene.Filtering
import IncidentBoard.Proofs.Screen.Entries
import IncidentBoard.Proofs.Paging.Count
import IncidentBoard.Proofs.Screen.Turning
import IncidentBoard.Proofs.Screen.Following
import IncidentBoard.Proofs.Registry.Resolution
import IncidentBoard.Proofs.Registry.Keeping
import IncidentBoard.Proofs.Scene.Providers
import IncidentBoard.Proofs.Session.Mounting
import IncidentBoard.Proofs.Session.Coherence
import IncidentBoard.Proofs.Query.Refusal
import IncidentBoard.Proofs.Field.NormalForm
import IncidentBoard.Proofs.Agenda.Filtered
import IncidentBoard.Proofs.Scene.Refusal
import IncidentBoard.Proofs.Scene.Lookups
import IncidentBoard.Proofs.Answer.Emptiness
import IncidentBoard.Proofs.Scene.Life
import IncidentBoard.Proofs.Screen.Emptiness
import IncidentBoard.Proofs.Query.Unfiltered
import IncidentBoard.Proofs.Store.Refused
import IncidentBoard.Proofs.Calendar.Days
import IncidentBoard.Proofs.Calendar.EndTimes
import IncidentBoard.Proofs.Text.Pieces
import IncidentBoard.Proofs.Text.Escapes
import IncidentBoard.Proofs.Remote.Segments
import IncidentBoard.Proofs.Remote.Addressed
