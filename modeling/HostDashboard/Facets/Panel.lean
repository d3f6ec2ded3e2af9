/-
**The sidebar with staged selections.**

Clicks change only the staged selections; nothing reaches the search until they are applied.

* `toggle` flips a value among the staged ones;
* `apply` makes the staged selections those of the state, and tells whether that changed anything;
* `view` lists the options of every category: first the counted values, then the staged ones that are
  not counted, with the count zero.
-/

import HostDashboard.Facets.Counts
import HostDashboard.Navigation

namespace HostDashboard

/-- The selections in force and the staged ones. -/
structure Panel where
  committed : Selections := {}
  staged : Selections := {}
  deriving DecidableEq, Repr, Inhabited

/-- One box of the sidebar. -/
structure FacetOption where
  value : String
  count : Nat
  selected : Bool
  deriving DecidableEq, Repr

structure PanelView where
  countries : List FacetOption
  asns : List FacetOption
  services : List FacetOption
  pendingChanges : Bool
  deriving DecidableEq, Repr

namespace Panel

/-- A panel with nothing staged beyond what is in force. -/
def ofSelections (selections : Selections) : Panel := ⟨selections, selections⟩

/-- Flips a value among the staged ones of a category. -/
def toggle (panel : Panel) (category : Category) (value : String) : Panel :=
  { panel with staged := panel.staged.toggle category value }

/-- Some category is staged otherwise than it is in force. -/
def hasPendingChanges (panel : Panel) : Bool :=
  Category.all.any fun category => panel.staged.get category ≠ panel.committed.get category

/-- Changes are pending where some category is staged otherwise. -/
theorem hasPendingChanges_iff (panel : Panel) :
    panel.hasPendingChanges = true ↔
      ∃ category, panel.staged.get category ≠ panel.committed.get category := by
  unfold hasPendingChanges
  rw [List.any_eq_true]
  constructor
  · rintro ⟨category, _, differs⟩
    exact ⟨category, of_decide_eq_true differs⟩
  · rintro ⟨category, differs⟩
    refine ⟨category, ?_, decide_eq_true differs⟩
    cases category <;> decide

/-- Forgets what is staged. -/
def discard (panel : Panel) : Panel := ofSelections panel.committed

/-- Puts the staged selections in force, in the panel and in the state; true if the panel or the
state had others. -/
def apply (panel : Panel) (navigation : Navigation) : Panel × Navigation × Bool :=
  (ofSelections panel.staged, { navigation with selections := panel.staged },
    panel.hasPendingChanges || navigation.selections ≠ panel.staged)

/-- Adds a staged value that is not yet among the options. -/
def addStaged (options : List FacetOption) (value : String) : List FacetOption :=
  if options.any (·.value = value) then options else options ++ [⟨value, 0, true⟩]

def options (panel : Panel) (counts : Counts) (category : Category) : List FacetOption :=
  let staged := panel.staged.get category
  staged.foldl addStaged ((counts.options category).map fun value =>
    ⟨value, counts.count category value, staged.contains value⟩)

def view (panel : Panel) (counts : Counts) : PanelView where
  countries := panel.options counts .countries
  asns := panel.options counts .asns
  services := panel.options counts .services
  pendingChanges := panel.hasPendingChanges

end Panel

/-- One box as a record. -/
def FacetOption.toJson (option : FacetOption) : Json :=
  .record [("value", .text option.value), ("count", .ofNat option.count),
    ("selected", .bool option.selected)]

def PanelView.toJson (view : PanelView) : Json :=
  .record [("countries", .list (view.countries.map FacetOption.toJson)),
    ("asns", .list (view.asns.map FacetOption.toJson)),
    ("services", .list (view.services.map FacetOption.toJson)),
    ("pending_changes", .bool view.pendingChanges)]

end HostDashboard
