import IncidentBoard.Failure

/-!
# Pages of a list

The numbers of the first and last item on a page and the number of pages. The number of pages is
the quotient of the two counts, rounded to a binary64 number, and then rounded up.

## Main definitions

* `Paging.bounds` — first item, last item and number of pages.
* `Paging.hasPrevious`, `Paging.hasNext` — whether there is a page on either side.
-/

namespace IncidentBoard.Paging

/-- First item, last item and number of pages. -/
structure Bounds where
  first : Int
  last : Int
  pages : Int
  deriving DecidableEq, Repr

/-- The number of pages that the items fill. -/
def pageCount (perPage total : Int) : Except Failure Int :=
  match Binary64.divide? total perPage with
  | none => .error (.foreign .divisionByZero)
  | some q =>
    match q.ceil? with
    | some n => .ok n
    | none => .error (.foreign .quotientTooLarge)

/-- The bounds of a page; an empty list has none. -/
def bounds (page perPage total : Int) : Except Failure Bounds :=
  if total ≤ 0 then .ok ⟨0, 0, 0⟩
  else
    (pageCount perPage total).map fun count =>
      ⟨page * perPage + 1, min total ((page + 1) * perPage), count⟩

/-- Whether there is a page before this one. -/
def hasPrevious (page : Nat) : Bool := page ≠ 0

/-- Whether there is a page after this one. -/
def hasNext (page : Nat) (count : Int) : Bool := (page : Int) < count - 1

end IncidentBoard.Paging
