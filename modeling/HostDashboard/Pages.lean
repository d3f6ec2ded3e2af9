/-
**Pages of a list that is already there.**

A `Pager` knows the size of a page, the number of the current one and the number of items. Pages count
from one.

* `sync` takes a new number of items, and returns to page one if the current page is gone;
* `goTo` moves to the page nearest to the one asked for;
* `slice` is the part of a list on the current page;
* `pageStrip` lists the page numbers to offer: all up to five, and beyond that the first, the last and
  those around the current one, with gaps between.
-/

import HostDashboard.Json.Basic

namespace HostDashboard

/-- An entry of the strip of page numbers. -/
inductive PageLink where
  /-- A page. -/
  | page (number : Nat)
  /-- Pages that are left out. -/
  | gap
  deriving DecidableEq, Repr

/-- A page as its number, a gap as three dots. -/
def PageLink.toJson : PageLink → Json
  | page number => .ofNat number
  | gap => .text "..."

/-- Up to this many pages the strip has no gap. -/
def fullStrip : Nat := 5

/-- The pages from `first` on, `count` of them. -/
def pageRun (first count : Nat) : List PageLink := (List.range' first count).map .page

/-- The strip of page numbers around the current one. -/
def pageStrip (current total : Nat) : List PageLink :=
  if total ≤ fullStrip then pageRun 1 total
  else if current ≤ 3 then pageRun 1 4 ++ [.gap, .page total]
  else if total - 2 ≤ current then [.page 1, .gap] ++ pageRun (total - 3) 4
  else [.page 1, .gap] ++ pageRun (current - 1) 3 ++ [.gap, .page total]

/-- Pages over a number of items. -/
structure Pager where
  /-- The items on a full page. -/
  size : Nat := 10
  /-- The current page. -/
  current : Nat := 1
  /-- The number of items. -/
  total : Nat := 0
  deriving DecidableEq, Repr, Inhabited

namespace Pager

/-- Pages of a given size, at least one. -/
def ofSize (size : Nat) : Pager := { size := max size 1 }

/-- The number of pages, zero when there is no item. -/
def pageCount (pager : Pager) : Nat := (pager.total + pager.size - 1) / pager.size

/-- Takes a new number of items; page one if the current page is gone. -/
def sync (pager : Pager) (total : Nat) : Pager :=
  let counted := { pager with total }
  if counted.pageCount < counted.current then { counted with current := 1 } else counted

/-- Moves to the page nearest to a target. -/
def goTo (pager : Pager) (target : Int) : Pager :=
  { pager with current := (max 1 (min target (max pager.pageCount 1 : Nat))).toNat }

/-- Moves to page one. -/
def reset (pager : Pager) : Pager := { pager with current := 1 }

/-- The index of the first item on the current page. -/
def first (pager : Pager) : Nat := min ((pager.current - 1) * pager.size) pager.total

/-- The index after the last item on the current page. -/
def last (pager : Pager) : Nat := min (pager.first + pager.size) pager.total

/-- The part of a list on the current page. -/
def slice {α : Type} (pager : Pager) (items : List α) : List α :=
  (items.take pager.last).drop pager.first

/-- There is a page before the current one. -/
def hasPrevious (pager : Pager) : Bool := 1 < pager.current

/-- There is a page after the current one. -/
def hasNext (pager : Pager) : Bool := pager.current < pager.pageCount

/-- The strip of page numbers. -/
def strip (pager : Pager) : List PageLink := pageStrip pager.current pager.pageCount

end Pager

/-- The way in which the list moves into view after a page change. -/
def scrollMark : String := "smooth-top"

end HostDashboard
