import IncidentBoard.Calendar.Zone.Table
import IncidentBoard.Provider.Scenario

/-!
# Bundled scenarios

The scenarios that are always there: one with two teams, and one without any incident. The table of
zones comes with them.

## Main definitions

* `Scenario.bundled` — the files.
-/

namespace IncidentBoard.Scenario

/-- The incidents of the scenario with two teams. -/
def defaultIncidents : List Incident :=
  [⟨"inc-01", "Checkout latency spike", "", false, 1700003600, 1700005400,
      "user-1", "T1", "chan-01"⟩,
    ⟨"inc-02", "Login failures in EU", "", false, 1700007200, 1700009000,
      "user-2", "T1", "chan-02"⟩,
    ⟨"inc-03", "Search index lagging", "", true, 1700010800, 0,
      "user-3", "T1", "chan-03"⟩,
    ⟨"inc-04", "Billing webhook backlog", "", false, 1700014400, 0,
      "user-1", "T1", "chan-04"⟩,
    ⟨"inc-05", "Push notifications delayed", "", false, 1700018000, 1700019800,
      "user-2", "T1", "chan-05"⟩,
    ⟨"inc-06", "API gateway 502s", "", true, 1700021600, 0,
      "user-3", "T1", "chan-06"⟩,
    ⟨"inc-07", "Database failover", "", false, 1700025200, 1700027000,
      "user-1", "T1", "chan-07"⟩,
    ⟨"inc-08", "Disk pressure on build agents", "", false, 1700028800, 1700030600,
      "user-2", "T1", "chan-08"⟩,
    ⟨"inc-09", "Expired TLS certificate", "", true, 1700032400, 0,
      "user-3", "T1", "chan-09"⟩,
    ⟨"inc-10", "Payment provider timeout", "", false, 1700036000, 1700037800,
      "user-1", "T1", "chan-10"⟩,
    ⟨"inc-11", "CDN cache purge stuck", "", false, 1700039600, 1700041400,
      "user-2", "T1", "chan-11"⟩,
    ⟨"inc-12", "Email bounces rising", "", true, 1700043200, 0,
      "user-3", "T1", "chan-12"⟩,
    ⟨"inc-13", "Mobile app crash loop", "", false, 1700046800, 1700048600,
      "user-1", "T1", "chan-13"⟩,
    ⟨"inc-14", "Queue consumer stalled", "", false, 1700050400, 1700052200,
      "user-2", "T1", "chan-14"⟩,
    ⟨"inc-15", "DNS resolution errors", "", true, 1700054000, 0,
      "user-3", "T1", "chan-15"⟩,
    ⟨"inc-16", "Feature flag misfire", "", false, 1700057600, 1700059400,
      "user-1", "T1", "chan-16"⟩,
    ⟨"inc-17", "Report export failing", "", false, 1700061200, 1700063000,
      "user-2", "T1", "chan-17"⟩,
    ⟨"inc-18", "SSO metadata mismatch", "", true, 1700064800, 0,
      "user-3", "T1", "chan-18"⟩,
    ⟨"inc-19", "Memory leak in worker", "", false, 1700068400, 1700070200,
      "user-1", "T1", "chan-19"⟩,
    ⟨"inc-20", "Rate limiter misconfigured", "", false, 1700072000, 1700073800,
      "user-2", "T1", "chan-20"⟩,
    ⟨"inc-t2-01", "Warehouse scanner outage", "", true, 1700500000, 0,
      "user-4", "T2", "chan-t2-01"⟩,
    ⟨"inc-t2-02", "Label printer backlog", "", false, 1700400000, 1700403600,
      "user-4", "T2", "chan-t2-02"⟩]

/-- The people of the scenario with two teams. -/
def defaultUsers : List UserProfile :=
  [⟨"user-1", "alice", "Alice", "Ng", ""⟩,
    ⟨"user-2", "bruno", "Bruno", "Costa", "bc"⟩,
    ⟨"user-3", "chidi", "", "", ""⟩,
    ⟨"user-4", "dana", "Dana", "Weiss", ""⟩]

/-- What the scenario with two teams adds to incidents. -/
def defaultExtras : Json.Fields :=
  [("inc-01", .object (IncidentDetail.extrasToFields
      ⟨some "incident-checkout-latency", some "Checkout latency spike", some "payments", 6, 42,
        [⟨"post-01a", 1700003700000⟩, ⟨"post-01b", 1700005000000⟩]⟩)),
    ("inc-03", .object (IncidentDetail.extrasToFields
      ⟨some "incident-search-index", some "Search index lagging", some "payments", 3, 12, []⟩))]

def file (incidents : List Incident) (extras : Json.Fields) (unavailable : List String)
    (users : List UserProfile) : Content :=
  .value (.object
    [(incidentsKey, .object
        [("incidents", .list (incidents.map fun i => .object i.toFields)),
          ("details", .object extras),
          ("detail_unavailable", .list (unavailable.map .text))]),
      (usersKey, .object [("users", .list (users.map fun u => .object u.toFields))])])

def bundled : Files :=
  [("default", file defaultIncidents defaultExtras ["inc-05"] defaultUsers),
    ("empty", file [] [] [] [])]

end IncidentBoard.Scenario
