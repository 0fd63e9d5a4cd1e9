/-!
A rectangle of character cells with styles, on which texts and boxes are placed. Whatever would
lie outside of it is cut.
-/

namespace RemoteTable

/-- Colour of the characters. -/
inductive Colour where
  | standard
  | darkGray
  | blue
  | yellow
  | red
deriving DecidableEq

/-- How a character is drawn. -/
structure Style where
  colour : Colour
  bold : Bool
  reversed : Bool
  italic : Bool
deriving DecidableEq

namespace Style

def plain : Style := ⟨.standard, false, false, false⟩

def coloured (colour : Colour) : Style := { plain with colour := colour }

def strong : Style := { plain with bold := true }

def slanted : Style := { plain with italic := true }

end Style

/-- A character in its style. -/
structure Glyph where
  char : Char
  style : Style
deriving DecidableEq

def Glyph.blank : Glyph := ⟨' ', .plain⟩

/-- Characters of a text in one style. -/
def styled (style : Style) (text : String) : List Glyph := text.toList.map fun c => ⟨c, style⟩

/-- The first `width` of some glyphs, filled up with blanks of a style. -/
def fitted (style : Style) (width : Nat) (glyphs : List Glyph) : List Glyph :=
  let kept := glyphs.take width
  kept ++ List.replicate (width - kept.length) ⟨' ', style⟩

/-- The rows of a screen from top to bottom. -/
structure Canvas where
  rows : List (List Glyph)
deriving DecidableEq

/-- A part of the screen. -/
structure Area where
  left : Nat
  top : Nat
  width : Nat
  height : Nat
deriving DecidableEq

/-- The part of an area inside a border of one cell. -/
def Area.inner (area : Area) : Area :=
  ⟨area.left + 1, area.top + 1, area.width - 2, area.height - 2⟩

/-- Replaces the glyphs of a row from `left` on. -/
def overwrite (row : List Glyph) (left : Nat) (glyphs : List Glyph) : List Glyph :=
  row.take left ++ glyphs.take (row.length - left) ++ row.drop (left + glyphs.length)

namespace Canvas

def blank (width height : Nat) : Canvas :=
  ⟨List.replicate height (List.replicate width .blank)⟩

/-- Places glyphs in one row. -/
def put (canvas : Canvas) (left top : Nat) (glyphs : List Glyph) : Canvas :=
  ⟨canvas.rows.modify top fun row => overwrite row left glyphs⟩

/-- Places rows of glyphs below each other. -/
def putRows (canvas : Canvas) (left top : Nat) : List (List Glyph) → Canvas
  | [] => canvas
  | row :: rest => (canvas.put left top row).putRows left (top + 1) rest

/-- Blanks an area. -/
def clear (canvas : Canvas) (area : Area) : Canvas :=
  canvas.putRows area.left area.top
    (List.replicate area.height (List.replicate area.width .blank))

/-- Draws a thick border around an area. -/
def border (canvas : Canvas) (area : Area) : Canvas :=
  let edge := fun (first middle last : Char) =>
    styled .plain (String.ofList (first :: List.replicate (area.width - 2) middle ++ [last]))
  let sides := (List.range (area.height - 2)).foldl (fun canvas i =>
    (canvas.put area.left (area.top + 1 + i) (styled .plain "┃")).put
      (area.left + area.width - 1) (area.top + 1 + i) (styled .plain "┃")) canvas
  (sides.put area.left area.top (edge '┏' '━' '┓')).put area.left (area.top + area.height - 1)
    (edge '┗' '━' '┛')

/-- Places glyphs in the middle of the columns from `left` on. -/
def putCentered (canvas : Canvas) (left width top : Nat) (glyphs : List Glyph) : Canvas :=
  canvas.put (left + (width - glyphs.length) / 2) top (glyphs.take width)

/-- The characters of each row. -/
def lines (canvas : Canvas) : List String :=
  canvas.rows.map fun row => String.ofList (row.map (·.char))

end Canvas

/-- A maximal run of glyphs of one style that is not plain. -/
structure StyleRun where
  row : Nat
  column : Nat
  length : Nat
  style : Style
deriving DecidableEq

/-- The style runs of a row from `column` on. -/
def styleRunsFrom (row : Nat) : Nat → List Glyph → List StyleRun
  | _, [] => []
  | column, glyph :: rest =>
    let others := styleRunsFrom row (column + 1) rest
    if glyph.style = .plain then others
    else match others with
      | run :: more =>
        if run.column = column + 1 ∧ run.style = glyph.style then
          ⟨row, column, run.length + 1, run.style⟩ :: more
        else ⟨row, column, 1, glyph.style⟩ :: others
      | [] => [⟨row, column, 1, glyph.style⟩]

/-- The style runs of a screen, row by row. -/
def Canvas.styleRuns (canvas : Canvas) : List StyleRun :=
  (canvas.rows.zipIdx.map fun (row, index) => styleRunsFrom index 0 row).flatten

end RemoteTable
