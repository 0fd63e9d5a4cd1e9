/-!
Commands of the user and the keys that give them.
-/

namespace RemoteTable

inductive Command where
  | quit
  | moveLeft
  | moveRight
  | sortAscending
  | sortDescending
  | hideColumn
  | histogram
  | allRows
  | noRows
  | refresh
  | home
  | cancelRequests
  | help
  | exit
deriving DecidableEq

/-- A key of the keyboard; `other` is any key without a command of its own. -/
inductive Key where
  | char (c : Char)
  | escape
  | left
  | right
  | other
deriving DecidableEq

/-- The command a key gives. -/
def Key.command? : Key → Option Command
  | char 'q' => some .quit
  | char '?' => some .help
  | escape => some .exit
  | left => some .moveLeft
  | right => some .moveRight
  | char 's' => some .sortAscending
  | char 'S' => some .sortDescending
  | char 'x' => some .hideColumn
  | char 'g' => some .histogram
  | char 'a' => some .allRows
  | char 'n' => some .noRows
  | char 'r' => some .refresh
  | char 'h' => some .home
  | char 'c' => some .cancelRequests
  | char _ | other => none

/-- What the help popup tells. -/
def helpLines : List String :=
  ["",
    "rtv - remote table viewer",
    "",
    "  q         Quit",
    "  ?         Show this help",
    "  Esc       Close popup",
    "",
    "  Left      Select previous column",
    "  Right     Select next column",
    "  s         Sort ascending by selected column",
    "  S         Sort descending by selected column",
    "  x         Hide selected column",
    "  g         Range of selected column",
    "",
    "  a         Show all columns",
    "  n         Show no columns",
    "  r         Refresh",
    "  h         Go back to the first table",
    "  c         Cancel running requests"]

end RemoteTable
