import RemoteTable.Screen.Canvas
import RemoteTable.Screen.ScrollBar
import RemoteTable.Viewer.Basic

/-!
The screen of the viewer: the table with a scroll bar beside it, a status line below, and a popup
over the table. The cells of the table, their styles and the widths of the columns are those that the
viewer asks for. How they are laid out holds for screens on which all columns of the table fit, of at
least 34 columns and 5 rows, and for characters that take one cell each.
-/

namespace RemoteTable.Screen

/-- Columns in front of those of the schema. -/
def pseudoColumns : Nat := 2

/-- Width of a column that holds a label and cells: the longest of them, cut at a limit. Widths
are 16-bit words. -/
def columnWidth (label : String) (cells : List String) (limit : Nat) : Nat :=
  min ((cells.map String.length).foldl max label.length) limit % Nat.pow 2 16

/-- Width of each column. Rows may be shorter than the header. -/
def columnWidths (labels : List String) (rows : List (List String)) (limit : Nat) : List Nat :=
  labels.zipIdx.map fun (label, index) =>
    columnWidth label (rows.filterMap fun row => row[index]?) limit

/-- A text of a table in its style. -/
structure StyledCell where
  text : String
  style : Style
deriving DecidableEq

/-- The header cell of the selected column is reversed, those of visible columns are bold. -/
def headerStyle (selected index : Nat) (cell : HeaderCell) : Style :=
  { Style.plain with bold := cell.visible, reversed := index == selected }

def headerCells (selected : Nat) (header : List HeaderCell) : List StyledCell :=
  header.zipIdx.map fun (cell, index) => ⟨cell.label, headerStyle selected index cell⟩

def cellStyle (selected index : Nat) : Style :=
  if index = selected then .coloured .yellow else .plain

def dataCells (selected : Nat) (cells : List String) : List StyledCell :=
  cells.zipIdx.map fun (cell, index) => ⟨cell, cellStyle selected index⟩

/-- What is to be drawn of a table, before it is laid out. -/
structure TableWidget where
  title : String
  header : List StyledCell
  rows : List (List StyledCell)
  widths : List Nat
  footer : Option String
deriving DecidableEq

/-- The table of a view. The column under the cursor is the selected one. -/
def TableWidget.ofView (view : View) (limit : Nat) : TableWidget :=
  let rendering := view.rendering
  let selected := view.cursor + pseudoColumns
  { title := " Table " ++ view.tableId.text ++ " "
    header := headerCells selected rendering.header
    rows := rendering.rows.map (dataCells selected)
    widths := columnWidths (rendering.header.map (·.label)) rendering.rows limit
    footer := rendering.footer.map fun footer => " " ++ footer ++ " " }

/-- Cells of a row beside each other, each in its width and a blank between them. -/
def layOut : List (Nat × StyledCell) → List Glyph
  | [] => []
  | (width, cell) :: rest =>
    fitted cell.style width (styled cell.style cell.text) ++ .blank :: layOut rest

/-- The table with its title and footer in the border. -/
def drawTable (widget : TableWidget) (area : Area) (canvas : Canvas) : Canvas :=
  let inner := area.inner
  let rows := (widget.header :: widget.rows).map fun cells => layOut (widget.widths.zip cells)
  let framed := (canvas.border area).putCentered inner.left inner.width area.top
    (styled .strong widget.title)
  let titled := match widget.footer with
    | some footer =>
      framed.putCentered inner.left inner.width (area.top + area.height - 1) (styled .plain footer)
    | none => framed
  titled.putRows inner.left inner.top ((rows.take inner.height).map fun row => row.take inner.width)

def drawScrollBar (marks : List Bool) (area : Area) (canvas : Canvas) : Canvas :=
  canvas.putRows area.left area.top
    (marks.map fun mark => styled (.coloured .darkGray) (if mark then "█" else "│"))

/-- What stands in place of a table while there is none. -/
def waitingText : String := "Waiting for a table ..."

def drawWaiting (area : Area) (canvas : Canvas) : Canvas :=
  let inner := area.inner
  let glyphs := styled .slanted waitingText
  (canvas.border area).put (inner.left + inner.width / 2 - glyphs.length / 2) inner.top
    (glyphs.take inner.width)

/-- What a progress bar shows in the status line. -/
def progressText (bar : ProgressBar) : String :=
  " " ++ bar.description ++ " " ++ (bar.done * Double.ofNat 100).fixedText 0 ++ "% "

/-- Running requests and the last error, or that the viewer is ready. -/
def statusLine (session : Session) : List Glyph :=
  let running := session.progress.bars.map fun bar =>
    styled (.coloured .blue) (progressText bar)
  let error := session.lastError.toList.map fun message =>
    styled { Style.strong with colour := .red } (" " ++ message ++ " ")
  let spans := running ++ error
  (if spans.isEmpty then styled .plain " Ready " else spans.flatten)
    ++ styled (.coloured .darkGray) " <?> Help "

/-- The part of the screen a popup of some lines covers: the middle three fifths of the columns,
and as many rows as it needs. -/
def popupArea (lines : Nat) (area : Area) : Area :=
  let height := min (lines + 2) area.height
  let left := (2 * area.width + 5) / 10
  ⟨area.left + left, area.top + (area.height - height + 1) / 2,
    (8 * area.width + 5) / 10 - left, height⟩

def drawPopup (title : String) (lines : List String) (area : Area) (canvas : Canvas) : Canvas :=
  let area := popupArea lines.length area
  let inner := area.inner
  let framed := ((canvas.clear area).border area).putCentered inner.left inner.width area.top
    (styled .strong (" " ++ title ++ " "))
  let closable := framed.putCentered inner.left inner.width (area.top + area.height - 1)
    (styled .plain " <Esc> close ")
  closable.putRows inner.left inner.top
    ((lines.take inner.height).map fun line => (styled .plain line).take inner.width)

/-- The screen of a viewer. -/
def draw (viewer : Viewer) (width height : Nat) : Except Fault Canvas := do
  let blank := Canvas.blank width height
  let mainArea : Area := ⟨0, 0, width, height - 1⟩
  let tableArea : Area := ⟨0, 0, width - 1, height - 1⟩
  let table ← match viewer.page.view with
    | some view => do
      let marks ← ScrollBar.marks view.rendering.scroll mainArea.height
      pure ((drawTable (.ofView view viewer.maxColumnWidth) tableArea blank)
        |> drawScrollBar marks ⟨width - 1, 0, 1, height - 1⟩)
    | none => pure (drawWaiting tableArea blank)
  let status := table.put 0 (height - 1) ((statusLine viewer.page.session).take width)
  match ← viewer.popup with
  | some (title, lines) => return drawPopup title lines mainArea status
  | none => return status

end RemoteTable.Screen
