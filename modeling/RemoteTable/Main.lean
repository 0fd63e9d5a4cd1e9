import RemoteTable.Connection.Address
import RemoteTable.Screen.Draw

/-!
The viewer on plain lines. Each line of the input is the text of a reply or names a key; the
frames for the server and the screen are written to the output.
-/

namespace RemoteTable.Main

/-- What the command line may set. The time to wait for a key and the log matter to a terminal
only. -/
structure Options where
  url : String
  logFile : String
  /-- Milliseconds to wait for a key before replies are handled. -/
  poll : Nat
  maxColumnWidth : Nat
  verbosity : Nat

def Options.standard : Options := ⟨"ws://localhost:8080/rpc", "~/.rtv.log", 100, 32, 0⟩

/-- Options are given as a name and a value, apart from the switch for more logging. -/
def Options.ofArguments? (options : Options) : List String → Option Options
  | [] => some options
  | "-v" :: rest | "--verbose" :: rest =>
    { options with verbosity := options.verbosity + 1 }.ofArguments? rest
  | "-u" :: value :: rest | "--url" :: value :: rest =>
    { options with url := value }.ofArguments? rest
  | "--log-file" :: value :: rest => { options with logFile := value }.ofArguments? rest
  | "--poll" :: value :: rest =>
    match value.toNat? with
    | some n => { options with poll := n }.ofArguments? rest
    | none => none
  | "--max-column-width" :: value :: rest =>
    match value.toNat? with
    | some n => { options with maxColumnWidth := n }.ofArguments? rest
    | none => none
  | _ => none

def usage : String :=
  "Usage: rtv [-u|--url URL] [--log-file FILE] [--poll MILLIS] [--max-column-width N] [-v]..."

/-- Size of the screen. -/
def screenWidth : Nat := 80
def screenHeight : Nat := 24

/-- The key a line names. -/
def keyOfLine (line : String) : Key :=
  match line.toList with
  | [c] => .char c
  | _ =>
    if line == "Esc" then .escape
    else if line == "Left" then .left
    else if line == "Right" then .right
    else .other

/-- A line is the text of a reply, or else names a key. Replies are handled at once. -/
def advance (viewer : Viewer) (line : String) : Viewer :=
  match Wire.decodeText ReplyFrame line with
  | .ok frame => { viewer with page := viewer.page.receive frame }.tick.2
  | .error _ =>
    match (keyOfLine line).command? with
    | some command => (viewer.update command).tick.2
    | none => viewer

/-- The frames for the server after the first `count` ones. -/
def newFrames (viewer : Viewer) (count : Nat) : List String :=
  (viewer.page.session.attempts.drop count).map fun attempt => Wire.encodeText attempt.frame

/-- What is written for a viewer: new frames, then the screen. -/
def output (sent : Nat) (viewer : Viewer) : List String :=
  newFrames viewer sent ++
    match Screen.draw viewer screenWidth screenHeight with
    | .ok canvas => canvas.lines
    | .error fault => [fault.message]

/-- A line of the input without its end. -/
def withoutEnd (line : String) : String :=
  String.ofList (line.toList.filter fun c => c != '\n' && c != '\r')

partial def loop (input : IO.FS.Stream) (sent : Nat) (viewer : Viewer) : IO Unit := do
  for line in output sent viewer do
    IO.println line
  if viewer.quitting then return
  let line ← input.getLine
  if line.isEmpty then return
  loop input viewer.page.session.attempts.length (advance viewer (withoutEnd line))

end RemoteTable.Main

open RemoteTable in
def main (arguments : List String) : IO UInt32 := do
  match Main.Options.standard.ofArguments? arguments with
  | none =>
    IO.eprintln Main.usage
    return 2
  | some options =>
    match Address.refusal? options.url with
    | some err =>
      IO.eprintln ("Error: " ++ (ClientError.socket (.address err)).message)
      return 1
    | none =>
      Main.loop (← IO.getStdin) 0 (Viewer.new .fresh options.maxColumnWidth).start
      return 0
