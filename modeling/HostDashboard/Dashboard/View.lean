/-
**The page as it is shown.**

`DashboardView.of` puts together one page of the hosts, the strip of page numbers, the sidebar, the
markers on the map, the link and the load states.
-/

import HostDashboard.Dashboard.Data
import HostDashboard.Facets.Panel
import HostDashboard.Pages

namespace HostDashboard

/-- A marker on the map. -/
structure MapDot where
  latitude : Decimal.Binary64
  longitude : Decimal.Binary64
  label : String
  deriving DecidableEq, Repr

/-- The list of hosts. -/
structure ResultsView where
  /-- The hosts on the current page. -/
  hosts : List Host
  /-- The number of hosts on all pages. -/
  total : Nat
  page : Nat
  pageCount : Nat
  pages : List PageLink
  hasPrevious : Bool
  hasNext : Bool
  nextPageToken : Option String
  deriving DecidableEq

structure DashboardView where
  query : Option String
  href : String
  results : ResultsView
  facets : PanelView
  map : List MapDot
  status : LoadStatus
  error : Option String
  deriving DecidableEq

/-- The marker of a host. -/
def Host.mapDot (host : Host) : MapDot :=
  ⟨host.location.latitude, host.location.longitude, host.ip⟩

/-- The markers of the hosts whose place is known. -/
def mapDots (hosts : List Host) : List MapDot := (hosts.filter Host.hasLocation).map Host.mapDot

/-- The page of a state with its data, pages and sidebar. -/
def DashboardView.of (navigation : Navigation) (data : Data) (pager : Pager) (panel : Panel)
    (status : LoadStatus) : DashboardView where
  query := navigation.query
  href := navigation.href
  results := {
    hosts := pager.slice data.hosts
    total := data.hosts.length
    page := pager.current
    pageCount := pager.pageCount
    pages := pager.strip
    hasPrevious := pager.hasPrevious
    hasNext := pager.hasNext
    nextPageToken := data.nextPageToken }
  facets := panel.view data.counts
  map := mapDots data.hosts
  status
  error := data.error

/-- The page of a link without a session: freshly loaded data at a page number. -/
def DashboardView.ofLink (navigation : Navigation) (page : Int) (data : Data) : DashboardView :=
  .of navigation data ((({} : Pager).sync data.hosts.length).goTo page)
    (.ofSelections navigation.selections) data.status

/-! ### As JSON -/

/-- A marker as a record. -/
def MapDot.toJson (dot : MapDot) : Json :=
  .record [("lat", .ofReal dot.latitude), ("lng", .ofReal dot.longitude), ("label", .text dot.label)]

/-- The list of hosts as a record. -/
def ResultsView.toJson (results : ResultsView) : Json :=
  .record ([("hosts", .list (results.hosts.map Host.toJson)), ("total", .ofNat results.total),
      ("page", .ofNat results.page), ("total_pages", .ofNat results.pageCount),
      ("pages", .list (results.pages.map PageLink.toJson)),
      ("has_previous", .bool results.hasPrevious), ("has_next", .bool results.hasNext)]
    ++ memberIfSome "next_page_token" (results.nextPageToken.map .text))

def LoadStatus.toJson (status : LoadStatus) : Json :=
  .record [("search", .text status.search.name), ("facets", .text status.facets.name)]

def DashboardView.toJson (view : DashboardView) : Json :=
  .record ([("query", .orNull (view.query.map .text)), ("href", .text view.href),
      ("results", view.results.toJson), ("facets", view.facets.toJson),
      ("map", .list (view.map.map MapDot.toJson)), ("status", view.status.toJson)]
    ++ memberIfSome "error" (view.error.map .text))

end HostDashboard
