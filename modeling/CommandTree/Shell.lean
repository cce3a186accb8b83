import CommandTree.Dispatch
import CommandTree.Text.Utf8
import CommandTree.World

/-!
# The chat shell

Each line is chat of the acting player.  A line that begins with an at sign first
makes another player act.  After a line everyone reads their messages, and what they
read is shown.

## Main definitions

* `Seat` — a host whose players live in a world.
* `Shell`, `LineResult` — the shell, and what a line does.
* `Shell.handleLine` — one line.
* `Shell.run` — all lines of an input.
-/

namespace CommandTree

/-- A host whose players live in a world. -/
structure Seat (H : Host) where
  /-- The world in the state of the host. -/
  world : H.State → World
  /-- The state of the host with another world. -/
  setWorld : World → H.State → H.State
  /-- The player with a name. -/
  who : String → H.Who

/-- The seat of a world itself. -/
def World.seat : Seat World.host := ⟨id, fun w _ => w, id⟩

/-- What stands before a message of a style. -/
def Style.marker : Style → String
  | .plain => ""
  | .error => "! "
  | .header => "== "
  | .highlight => "* "

/-- A message as the shell shows it. -/
def showMessage (recipient : String) (m : Message) : String :=
  "[" ++ recipient ++ "] " ++ m.style.marker ++ m.plainText

/-- A shell. -/
structure Shell (H : Host) where
  /-- The commands. -/
  dispatcher : Dispatcher H
  /-- The player whose chat the lines are. -/
  acting : String
  /-- What has changed so far. -/
  session : Session H

/-- What a line does. -/
structure LineResult (H : Host) where
  /-- What is shown. -/
  transcript : List String
  /-- The message that was dispatched and what became of it, if any was. -/
  dispatched : Option (String × Dispatched H)
  /-- The shell afterwards. -/
  shell : Shell H

namespace Shell

variable {H : Host}

/-- A line that does no more than show one text. -/
def remark (shell : Shell H) (text : String) : LineResult H := ⟨[text], none, shell⟩

/-- The chat of the acting player. -/
def speak (seat : Seat H) (shell : Shell H) (text : String) : LineResult H :=
  if text.isEmpty then shell.remark ("Now chatting as " ++ shell.acting)
  else if (seat.world shell.session.host).isOnline shell.acting then
    let result := shell.dispatcher.dispatch (seat.who shell.acting) text shell.session
    let (messages, world) := (seat.world result.session.host).drain
    let echo :=
      if result.outcome = .ignored then ["<" ++ shell.acting ++ "> " ++ text] else []
    ⟨echo ++ messages.map fun (name, m) => showMessage name m, some (text, result),
      { shell with
        session := { result.session with host := seat.setWorld world result.session.host } }⟩
  else shell.remark (shell.acting ++ " is no longer online")

/-- The name after an at sign, and the chat after the name. -/
def addressee (rest : List Char) : String × String :=
  let (name, text) := Text.splitAtBlank (String.ofList rest)
  (name, Text.trim text)

/-- One line. -/
def handleLine (seat : Seat H) (shell : Shell H) (line : String) : LineResult H :=
  match (Text.trim line).toList with
  | [] => ⟨[], none, shell⟩
  | '@' :: rest =>
    let (name, text) := addressee rest
    if (seat.world shell.session.host).isOnline name then
      speak seat { shell with acting := name } text
    else shell.remark ("No player named " ++ name ++ " is online")
  | line => speak seat shell (String.ofList line)

/-- What several lines do, one after the other. -/
def handleLines (seat : Seat H) : Shell H → List String → List (LineResult H)
  | _, [] => []
  | shell, line :: lines =>
    let result := shell.handleLine seat line
    result :: handleLines seat result.shell lines

/-! ### Input in bytes -/

/-- The lines of an input, each without the line feed it ends with and without a carriage return
right before that.  The last one may end without a line feed. -/
def splitLines : List UInt8 → List (List UInt8)
  | [] => []
  | b :: rest =>
    if b = 10 then [] :: splitLines rest
    else if b = 13 ∧ rest.head? = some 10 then splitLines rest
    else
      match splitLines rest with
      | [] => [[b]]
      | line :: lines => (b :: line) :: lines

/-- What a run over an input gives. -/
structure RunResult (H : Host) where
  /-- Everything that is shown, line by line. -/
  output : List String
  /-- What is wrong with the line at which the run ended early. -/
  broken : Option Text.Utf8Error
  /-- The shell afterwards. -/
  shell : Shell H

/-- All lines up to the first that is no text. -/
def runLines (seat : Seat H) : Shell H → List (List UInt8) → RunResult H
  | shell, [] => ⟨[], none, shell⟩
  | shell, bytes :: rest =>
    match Text.decodeBytes bytes with
    | .error e => ⟨[], some e, shell⟩
    | .ok line =>
      let result := shell.handleLine seat line
      let run := runLines seat result.shell rest
      { run with output := result.transcript ++ run.output }

/-- A run over an input. -/
def run (seat : Seat H) (shell : Shell H) (input : List UInt8) : RunResult H :=
  runLines seat shell (splitLines input)

end Shell

end CommandTree
