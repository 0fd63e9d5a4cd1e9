import RemoteTable.Session.Basic
import RemoteTable.Table.Rendering

/-!
The view of a remote table: its columns, the order its rows are asked for in, and the snapshot it
shows. Each new snapshot request takes the place of the one in flight, and only snapshots of the
newest request are shown.
-/

namespace RemoteTable

/-- What is shown of a table, and what is known of it. -/
structure View where
  tableId : ObjectId
  /-- Number of the view; a view replaced by another never gets its number back. -/
  serial : Nat
  schema : Option Schema
  /-- Place of the first displayed row in the table. -/
  startPosition : Option UInt64
  rowCount : Option UInt64
  order : SortOrder
  /-- The order the displayed snapshot was asked for in. -/
  snapshotOrder : SortOrder
  /-- Rows of the table that are displayed, repetitions counted. -/
  displayedRows : Nat
  snapshot : Option Snapshot
  rendering : Rendering
  /-- How many snapshot requests have been made. -/
  generation : Nat
  inFlight : Option RequestHandle
  /-- Place in the schema of the column the cursor is on. -/
  cursor : Nat
deriving DecidableEq

/-- What a sort command does to a column. -/
inductive SortDirective where
  | hide
  | descending
  | ascending
deriving DecidableEq

def SortDirective.ofInt (value : Int) : Except ClientError SortDirective :=
  if value = 0 then .ok .hide
  else if value = -1 then .ok .descending
  else if value = 1 then .ok .ascending
  else .error (.invalidDirective value)

namespace View

def new (tableId : ObjectId) (serial : Nat) : View :=
  ⟨tableId, serial, none, none, none, .empty, .empty, 0, none, .empty, 0, none, 0⟩

def findColumn? (view : View) (name : String) : Option Column :=
  view.schema.bind (·.find? name)

/-- Gives up the snapshot request in flight. -/
def cancelInFlight (view : View) (session : Session) : View × Session :=
  match view.inFlight with
  | none => (view, session)
  | some handle => ({ view with inFlight := none }, (session.cancel handle.requestId).2)

/-- Issues a snapshot request in place of the one in flight. -/
def issue (view : View) (call : Call) (session : Session) : View × Session :=
  let (view, session) := view.cancelInFlight session
  let generation := view.generation + 1
  let (handle, session) := session.invoke call (.renderer view.serial generation)
  ({ view with generation := generation, inFlight := some handle }, session)

def requestSchema (view : View) (session : Session) : View × Session :=
  view.issue (.bare view.tableId "getSchema") session

/-- Asks for the columns of an order, in that order. -/
def requestOrder (view : View) (order : SortOrder) (session : Session) : View × Session :=
  { view with order := order }.issue (.of view.tableId "getTableView" order) session

/-- The order completed by all columns of a schema, ascending. -/
def completedOrder (schema : Schema) (order : SortOrder) : SortOrder :=
  schema.columns.foldl (fun order column => order.appendIfAbsent ⟨column, true⟩) order

/-- Asks for every column of the schema; the current sort keys stay in front. -/
def showAllRows (view : View) (session : Session) : View × Session :=
  match view.schema with
  | none => (view, session.reportError "No data loaded")
  | some schema => view.requestOrder (completedOrder schema view.order) session

/-- Asks for no columns; only counts come back. -/
def noRows (view : View) (session : Session) : View × Session :=
  view.requestOrder .empty session

/-- Hides a column or makes it the primary sort key. Unknown columns are not sorted by. -/
def showColumn (view : View) (name : String) (directive : SortDirective) (session : Session) :
    View × Session :=
  match directive with
  | .hide => view.requestOrder (view.order.hide name) session
  | .ascending | .descending =>
    match view.findColumn? name with
    | none => (view, session)
    | some column =>
      view.requestOrder (view.order.promote ⟨column, directive == .ascending⟩) session

/-- Asks for the range of a column. -/
def requestRange (view : View) (name : String) (session : Session) : Session :=
  match view.findColumn? name with
  | none => session
  | some column =>
    (session.invoke (.of view.tableId "range" name) (.rangeCollector view.serial column none)).2

/-- Shows a snapshot. The first one with a schema tells the columns of the table. -/
def update (view : View) (data : Snapshot) : View :=
  let schema := view.schema.or data.schema
  let view := { view with
    schema := schema
    startPosition := data.startPosition
    rowCount := some data.rowCount
    snapshot := some data }
  match schema with
  | none =>
    { view with displayedRows := 0, rendering := Rendering.withoutSchema view.snapshotOrder }
  | some schema =>
    { view with
      displayedRows := Rendering.displayedCount (Rendering.rowsOf data)
      rendering := Rendering.ofSnapshot schema view.snapshotOrder data
      cursor := min view.cursor (schema.length - 1) }

/-- Takes a snapshot of the given request generation; only the newest counts. -/
def acceptSnapshot (view : View) (generation : Nat) (data : Snapshot) : View :=
  if generation = view.generation then { view with snapshotOrder := view.order }.update data
  else view

def requestFinished (view : View) (generation : Nat) : View :=
  if generation = view.generation then { view with inFlight := none } else view

/-- Shows the current snapshot once more. -/
def refresh (view : View) (session : Session) : View × Session :=
  match view.snapshot with
  | some data => (view.update data, session)
  | none => (view, session.reportError "Nothing to refresh")

def selectedColumn? (view : View) : Option Column := view.schema.bind (·.get? view.cursor)

def selectPrevious (view : View) : View := { view with cursor := view.cursor - 1 }

def selectNext (view : View) : View :=
  if view.cursor + 1 < (view.schema.map Schema.length).getD 0 then
    { view with cursor := view.cursor + 1 }
  else view

end View

end RemoteTable
