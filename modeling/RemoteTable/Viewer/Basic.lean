import RemoteTable.Page.Dispatch
import RemoteTable.Viewer.Command

/-!
The viewer: a page, and a mode that says whether commands go to the table or to a popup over it.
-/

namespace RemoteTable

inductive Mode where
  | table
  | popup
  | range
deriving DecidableEq

structure Viewer where
  page : Page
  mode : Mode
  quitting : Bool
  maxColumnWidth : Nat

namespace Viewer

def new (page : Page) (maxColumnWidth : Nat) : Viewer := ⟨page, .table, false, maxColumnWidth⟩

/-- Asks the server for its table. -/
def start (viewer : Viewer) : Viewer := { viewer with page := viewer.page.start }

/-- Title and lines of the popup over the table, if there is one. -/
def popup (viewer : Viewer) : Except Fault (Option (String × List String)) :=
  match viewer.mode with
  | .table => .ok none
  | .popup => .ok (some ("Help", helpLines))
  | .range =>
    match viewer.page.range with
    | none => .ok none
    | some range => range.lines.map fun lines => some (range.title, lines)

/-- A range that has come up is shown unless another popup is open; one that is gone is not. -/
def settle (viewer : Viewer) : Viewer :=
  match viewer.mode, viewer.page.range with
  | .table, some _ => { viewer with mode := .range }
  | .range, none => { viewer with mode := .table }
  | _, _ => viewer

/-- Handles the replies of the server and counts them. -/
def tick (viewer : Viewer) : Nat × Viewer :=
  let (handled, page) := viewer.page.pump
  (handled, { viewer with page := page }.settle)

/-- Name and kind of the column the cursor is on. -/
def selectedColumn? (viewer : Viewer) : Option Column :=
  viewer.page.view.bind View.selectedColumn?

def showSelected (viewer : Viewer) (directive : SortDirective) : Page :=
  match viewer.selectedColumn? with
  | none => viewer.page
  | some column => viewer.page.showColumn column.name directive

def requestSelectedRange (viewer : Viewer) : Page :=
  match viewer.selectedColumn? with
  | none => viewer.page
  | some column =>
    if column.kind.hasRange then viewer.page.requestRange column.name
    else viewer.page.reportError ("No range for column " ++ column.name)

/-- A command to the table. -/
def updateTable (viewer : Viewer) : Command → Viewer
  | .quit => { viewer with quitting := true }
  | .moveLeft => { viewer with page := viewer.page.modifyView View.selectPrevious }
  | .moveRight => { viewer with page := viewer.page.modifyView View.selectNext }
  | .sortAscending => { viewer with page := viewer.showSelected .ascending }
  | .sortDescending => { viewer with page := viewer.showSelected .descending }
  | .hideColumn => { viewer with page := viewer.showSelected .hide }
  | .histogram => { viewer with page := viewer.requestSelectedRange }
  | .allRows => { viewer with page := viewer.page.showAllRows }
  | .noRows => { viewer with page := viewer.page.noRows }
  | .refresh => { viewer with page := viewer.page.refresh }
  | .home => { viewer with page := viewer.page.goHome }
  | .cancelRequests => { viewer with page := viewer.page.cancelAll.2 }
  | .help => { viewer with mode := .popup }
  | .exit => viewer

/-- A command to a popup, which can only be closed. -/
def updatePopup (viewer : Viewer) : Command → Viewer
  | .quit => { viewer with quitting := true }
  | .exit =>
    match viewer.mode with
    | .range => { viewer with page := viewer.page.closeRange, mode := .table }
    | .popup | .table => { viewer with mode := .table }
  | _ => viewer

def update (viewer : Viewer) (command : Command) : Viewer :=
  match viewer.mode with
  | .table => viewer.updateTable command
  | .popup | .range => viewer.updatePopup command

end Viewer

end RemoteTable
