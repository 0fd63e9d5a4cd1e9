import RemoteTable.Table.Range
import RemoteTable.Table.View

/-!
The page: a session with the server, the view that is shown, and the range shown over it.
-/

namespace RemoteTable

/-- A call of an observer, as noted in the journal of the page. -/
structure JournalEntry where
  requestId : Nat
  observation : Observation
deriving DecidableEq

/-- The state of the client apart from its mode. -/
structure Page where
  session : Session
  view : Option View
  /-- The first table of the session. -/
  homeId : Option ObjectId
  nextSerial : Nat
  range : Option Range
  /-- Everything that observers have been told, the oldest first. -/
  journal : List JournalEntry

namespace Page

def fresh : Page := ⟨.fresh, none, none, 0, none, []⟩

def reportError (page : Page) (message : String) : Page :=
  { page with session := page.session.reportError message }

/-- The current view, if it has the given number. -/
def viewFor? (page : Page) (serial : Nat) : Option View :=
  page.view.filter (·.serial == serial)

/-- Changes the current view. -/
def modifyView (page : Page) (change : View → View) : Page :=
  { page with view := page.view.map change }

/-- Changes the current view if it has the given number. -/
def modifyViewFor (page : Page) (serial : Nat) (change : View → View) : Page :=
  page.modifyView fun view => if view.serial = serial then change view else view

/-- Lets the current view act on the session; nothing happens without a view. -/
def withView (page : Page) (action : View → Session → View × Session) : Page :=
  match page.view with
  | none => page
  | some view =>
    let (view, session) := action view page.session
    { page with view := some view, session := session }

/-- Replaces the current view. Its snapshot request is given up, and the range is closed. -/
def setView (page : Page) (view : View) : Page :=
  let page := page.withView View.cancelInFlight
  { page with view := some view, range := none }

/-- Replaces the current view by a new one of a table. The first table becomes the home. -/
def newView (page : Page) (tableId : ObjectId) : Page :=
  let serial := page.nextSerial
  { page with homeId := page.homeId.or (some tableId), nextSerial := serial + 1 }.setView
    (.new tableId serial)

/-- Shows a table and asks for its schema. -/
def showTable (page : Page) (tableId : ObjectId) : Page :=
  (page.newView tableId).withView View.requestSchema

/-- Returns to the first table, if there is one. -/
def goHome (page : Page) : Page :=
  match page.homeId with
  | none => page
  | some tableId => page.showTable tableId

def noRows (page : Page) : Page := page.withView View.noRows

def showAllRows (page : Page) : Page :=
  if page.view.isNone then page.reportError "No data loaded" else page.withView View.showAllRows

def showColumn (page : Page) (name : String) (directive : SortDirective) : Page :=
  page.withView fun view => view.showColumn name directive

/-- Asks for the range of a column of the current view. -/
def requestRange (page : Page) (name : String) : Page :=
  page.withView fun view session => (view, view.requestRange name session)

def refresh (page : Page) : Page :=
  if page.view.isNone then page.reportError "Nothing to refresh" else page.withView View.refresh

def showRange (page : Page) (range : Range) : Page := { page with range := some range }

def closeRange (page : Page) : Page := { page with range := none }

def cancel (page : Page) (requestId : Nat) : Bool × Page :=
  let (running, session) := page.session.cancel requestId
  (running, { page with session := session })

def cancelAll (page : Page) : Nat × Page :=
  let (count, session) := page.session.cancelAll
  (count, { page with session := session })

/-- Issues a request for an observer. -/
def invoke (page : Page) (call : Call) (observer : Observer) : RequestHandle × Page :=
  let (handle, session) := page.session.invoke call observer
  (handle, { page with session := session })

/-- Identifier the server gives its root object. -/
def rootId : ObjectId := ⟨"0"⟩

/-- Asks for the set of input files, from which a table is loaded. -/
def start (page : Page) : Page :=
  (page.invoke (.bare rootId "prepareFiles") (.fileSet none)).2

/-- Loads the table of a set of files. -/
def loadTable (page : Page) (files : ObjectId) : Page :=
  (page.invoke (.bare files "loadTable") (.tableLoader none)).2

/-- A reply arrives and waits to be handled. -/
def receive (page : Page) (frame : ReplyFrame) : Page :=
  { page with session := page.session.enqueue frame.requestId frame.reply }

end Page

end RemoteTable
