import IncidentBoard.Paging
import IncidentBoard.Screen.Render

/-!
# The pager

Below a list of several pages stand its bounds and two buttons that lead to the pages on either
side. A list of one page has none.

## Main definitions

* `Pager`, `Pager.of?` — what the pager offers on a page.
* `Pager.render` — the pager on screen, and the page that the user asks for.
-/

namespace IncidentBoard.Screen

/-- The bounds of a page, and whether there is a page on either side. -/
structure Pager where
  bounds : Paging.Bounds
  hasPrevious : Bool
  hasNext : Bool
  deriving DecidableEq, Repr

namespace Pager

/-- The pager of a page, unless there is only one page. -/
def of? (page perPage : Nat) (total : Int) : Except Failure (Option Pager) :=
  (Paging.bounds page perPage total).map fun b =>
    if b.pages ≤ 1 then none else some ⟨b, Paging.hasPrevious page, Paging.hasNext page b.pages⟩

def caption (p : Pager) (total : Int) : String :=
  s!"{p.bounds.first} - {p.bounds.last} of {total} total"

def previousButton (p : Pager) : Button :=
  ⟨"Previous", some "page-prev", none, some !p.hasPrevious, false⟩

def nextButton (p : Pager) : Button :=
  ⟨"Next", some "page-next", none, some !p.hasNext, false⟩

/-- Show the pager: the page that the user asks for. -/
def render {ω : Type} (page perPage : Nat) (total : Int) : Render ω Nat := do
  match ← Render.ofExcept (of? page perPage total) with
  | none => return page
  | some p =>
    let column ← Render.columns (.weighted [1, 3, 1])
    Render.textIn (column 1) .caption (p.caption total)
    if ← Render.press (column 0) p.previousButton then return page - 1
    if ← Render.press (column 2) p.nextButton then return page + 1
    return page

end Pager

end IncidentBoard.Screen
