import IncidentBoard.Board
import IncidentBoard.Provider
import Mathlib.Data.List.Basic

/-!
# Histories of fetches

What happened to the fetches of a board, in order: a fetch is issued, the provider is asked, the
outcome arrives. An arrival is timely when no later fetch was issued before it. What a list has to
show is a matter of the timely arrivals alone.

## Main definitions

* `FetchEvent`, `History` — what happens to a fetch, and everything that happened.
* `History.issued`, `History.arrived`, `History.lastIssued` — the fetches that were issued, those
  whose outcome arrived, and the latest one.
* `History.timely` — the timely arrivals, in order.
* `History.Shows` — what a list shows after a history.
-/

namespace IncidentBoard

/-- What happens to a fetch. -/
inductive FetchEvent where
  /-- An action needed it. -/
  | issued (f : Fetch)
  /-- The provider was asked and gave its reply. -/
  | asked (f : Fetch) (reply : Reply IncidentsPage)
  /-- Its outcome arrived. -/
  | arrived (f : Fetch) (outcome : Except Failure IncidentsPage)
  deriving Repr

namespace FetchEvent

def issued? : FetchEvent → Option Fetch
  | .issued f => some f
  | _ => none

def arrived? : FetchEvent → Option Fetch
  | .arrived f _ => some f
  | _ => none

end FetchEvent

/-- Everything that happened to the fetches of a board, in order. -/
abbrev History := List FetchEvent

namespace History

/-- The fetches issued, in order. -/
def issued (h : History) : List Fetch := h.filterMap FetchEvent.issued?

/-- The fetches whose outcome arrived, in the order of arrival. -/
def arrived (h : History) : List Fetch := h.filterMap FetchEvent.arrived?

/-- The fetch issued last. -/
def lastIssued (h : History) : Option Fetch := h.issued.getLast?

/-- The arrivals of fetches that were the last ones issued when they arrived; `last` is the last
fetch issued before. -/
def timelyAfter : Option Fetch → History → List (Fetch × Except Failure IncidentsPage)
  | _, [] => []
  | _, .issued f :: rest => timelyAfter (some f) rest
  | last, .asked _ _ :: rest => timelyAfter last rest
  | last, .arrived f o :: rest =>
    if last = some f then (f, o) :: timelyAfter last rest else timelyAfter last rest

/-- The arrivals of fetches that were the last ones issued when they arrived. -/
def timely (h : History) : List (Fetch × Except Failure IncidentsPage) := timelyAfter none h

/-- The text that an outcome leaves on the list. -/
def errorOf : Except Failure IncidentsPage → Option String
  | .ok _ => none
  | .error f => some f.message

/-- Whether a fetch with its page is the timely success of the highest token. -/
def Newest (h : History) (f : Fetch) (page : IncidentsPage) : Prop :=
  (f, .ok page) ∈ h.timely ∧ ∀ g p, (g, .ok p) ∈ h.timely → g.token ≤ f.token

/-- A list shows the page of the newest timely success with its query, nothing before there is
one. -/
structure ShowsPage (h : History) (l : ListState) : Prop where
  page : ∀ f p, h.Newest f p → l.query = some f.query ∧ l.items = p.items ∧ l.total = p.total
  exists_newest : (∃ f p, (f, .ok p) ∈ h.timely) → ∃ f p, h.Newest f p
  blank : (∀ f p, (f, .ok p) ∉ h.timely) → l.query = none ∧ l.items = [] ∧ l.total = 0

/-- What a list shows after a history: its page, the failure of the last timely arrival, and
whether the fetch issued last is still to arrive. -/
structure Shows (h : History) (l : ListState) : Prop extends ShowsPage h l where
  error : l.error = h.timely.getLast?.bind fun a => errorOf a.2
  loading : l.loading = true ↔ ∃ f, h.lastIssued = some f ∧ f ∉ h.arrived

/-! ## One event more -/

section Append

variable (h : History) (f : Fetch) (o : Except Failure IncidentsPage)
  (reply : Reply IncidentsPage)

@[simp] theorem issued_append (k : History) : issued (h ++ k) = h.issued ++ issued k :=
  List.filterMap_append

@[simp] theorem arrived_append (k : History) : arrived (h ++ k) = h.arrived ++ arrived k :=
  List.filterMap_append

@[simp] theorem issued_issued : issued [.issued f] = [f] := rfl

@[simp] theorem issued_asked : issued [.asked f reply] = [] := rfl

@[simp] theorem issued_arrived : issued [.arrived f o] = [] := rfl

@[simp] theorem arrived_issued : arrived [.issued f] = [] := rfl

@[simp] theorem arrived_asked : arrived [.asked f reply] = [] := rfl

@[simp] theorem arrived_arrived : arrived [.arrived f o] = [f] := rfl

@[simp] theorem lastIssued_issued : lastIssued (h ++ [.issued f]) = some f := by
  simp [lastIssued]

@[simp] theorem lastIssued_asked : lastIssued (h ++ [.asked f reply]) = h.lastIssued := by
  simp [lastIssued]

@[simp] theorem lastIssued_arrived : lastIssued (h ++ [.arrived f o]) = h.lastIssued := by
  simp [lastIssued]

theorem timelyAfter_append (last : Option Fetch) (k : History) :
    timelyAfter last (h ++ k) =
      timelyAfter last h ++ timelyAfter (h.lastIssued.or last) k := by
  induction h generalizing last with
  | nil => simp [timelyAfter, lastIssued, issued]
  | cons e rest ih =>
    cases e with
    | issued g =>
      have hlast : (lastIssued (.issued g :: rest)).or last = (lastIssued rest).or (some g) := by
        change ((g :: issued rest).getLast?).or last = (issued rest).getLast?.or (some g)
        rw [List.getLast?_cons]
        cases (issued rest).getLast? <;> rfl
      rw [hlast]
      exact ih (some g)
    | asked g r => exact ih last
    | arrived g o =>
      change timelyAfter last (.arrived g o :: (rest ++ k)) =
        timelyAfter last (.arrived g o :: rest) ++ timelyAfter ((lastIssued rest).or last) k
      by_cases hg : last = some g <;> simp [timelyAfter, hg, ih]

@[simp] theorem timely_issued : timely (h ++ [.issued f]) = h.timely := by
  simp [timely, timelyAfter_append, timelyAfter]

@[simp] theorem timely_asked : timely (h ++ [.asked f reply]) = h.timely := by
  simp [timely, timelyAfter_append, timelyAfter]

theorem timely_of_latest (hf : h.lastIssued = some f) :
    timely (h ++ [.arrived f o]) = h.timely ++ [(f, o)] := by
  simp [timely, timelyAfter_append, timelyAfter, hf]

theorem timely_of_superseded (hf : h.lastIssued ≠ some f) :
    timely (h ++ [.arrived f o]) = h.timely := by
  simp [timely, timelyAfter_append, timelyAfter, hf]

end Append

/-! ## What a list shows after one event more -/

variable {h : History} {l : ListState} {f : Fetch}

/-- The page is a matter of the timely successes. -/
theorem ShowsPage.congr {k : History} {m : ListState} (s : ShowsPage h l)
    (same : ∀ f p, (f, .ok p) ∈ timely k ↔ (f, .ok p) ∈ timely h)
    (list : m.query = l.query ∧ m.items = l.items ∧ m.total = l.total) : ShowsPage k m := by
  obtain ⟨query, items, total⟩ := list
  refine ⟨fun f p newest => ?_, fun found => ?_, fun none => ?_⟩
  · rw [query, items, total]
    exact s.page f p (by simpa only [Newest, same] using newest)
  · simpa only [Newest, same] using s.exists_newest (by simpa only [same] using found)
  · rw [query, items, total]
    exact s.blank (by simpa only [same] using none)

namespace Shows

theorem blank_nil : Shows [] .blank where
  page f p newest := by simp [Newest, timely, timelyAfter] at newest
  exists_newest := by simp [timely, timelyAfter]
  blank _ := ⟨rfl, rfl, rfl⟩
  error := rfl
  loading := by simp [ListState.blank, lastIssued, issued]

theorem begun (s : Shows h l) (fresh : f ∉ h.arrived) : Shows (h ++ [.issued f]) l.begun where
  toShowsPage := s.toShowsPage.congr (by simp) ⟨rfl, rfl, rfl⟩
  error := by simpa [ListState.begun] using s.error
  loading := by simp [ListState.begun, fresh]

theorem asked (s : Shows h l) (reply : Reply IncidentsPage) : Shows (h ++ [.asked f reply]) l where
  toShowsPage := s.toShowsPage.congr (by simp) ⟨rfl, rfl, rfl⟩
  error := by simpa using s.error
  loading := by simpa using s.loading

theorem superseded (s : Shows h l) (old : h.lastIssued ≠ some f)
    (o : Except Failure IncidentsPage) : Shows (h ++ [.arrived f o]) l where
  toShowsPage := s.toShowsPage.congr (by simp [timely_of_superseded _ _ _ old]) ⟨rfl, rfl, rfl⟩
  error := by simpa [timely_of_superseded _ _ _ old] using s.error
  loading := by
    rw [s.loading, lastIssued_arrived]
    refine exists_congr fun g => and_congr_right fun hg => ?_
    have hne : g ≠ f := fun e => old (e ▸ hg)
    simp [hne]

theorem ofPage (latest : h.lastIssued = some f)
    (rising : ∀ a ∈ h.timely, a.1.token < f.token) (page : IncidentsPage) :
    Shows (h ++ [.arrived f (.ok page)]) (.ofPage f.query page) where
  page g p newest := by
    obtain ⟨member, highest⟩ := newest
    simp only [timely_of_latest _ _ _ latest, List.mem_append, List.mem_singleton,
      Prod.mk.injEq, Except.ok.injEq] at member highest
    rcases member with old | ⟨rfl, rfl⟩
    · have below : g.token < f.token := rising _ old
      have above := highest f page (.inr ⟨rfl, rfl⟩)
      omega
    · exact ⟨rfl, rfl, rfl⟩
  exists_newest _ := by
    refine ⟨f, page, by simp [timely_of_latest _ _ _ latest], fun g p member => ?_⟩
    simp only [timely_of_latest _ _ _ latest, List.mem_append, List.mem_singleton,
      Prod.mk.injEq] at member
    rcases member with old | ⟨rfl, -⟩
    · exact Nat.le_of_lt (rising _ old)
    · exact Nat.le_refl _
  blank none := absurd (none f page) (by simp [timely_of_latest _ _ _ latest])
  error := by simp [timely_of_latest _ _ _ latest, ListState.ofPage, errorOf]
  loading := by simp [ListState.ofPage, latest]

theorem failed (s : Shows h l) (latest : h.lastIssued = some f) (e : Failure) :
    Shows (h ++ [.arrived f (.error e)]) (l.failed e.message) where
  toShowsPage := s.toShowsPage.congr (by simp [timely_of_latest _ _ _ latest]) ⟨rfl, rfl, rfl⟩
  error := by simp [timely_of_latest _ _ _ latest, ListState.failed, errorOf]
  loading := by simp [ListState.failed, latest]

end Shows

end History

end IncidentBoard
