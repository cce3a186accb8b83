import CommandTree.Settings.Basic
import CommandTree.Shell

/-!
# Starting the shell

The arguments of the program give its options, the settings come from files, the
environment and the options, and then everything on the standard input is chat.

## Main definitions

* `Options`, `UsageError`, `Request` — the arguments of the program.
* `Request.ofArguments` — reading them.
* `Surroundings` — what the program finds outside itself.
* `Options.settings` — the settings of a run.
* `Options.openShell` — the shell of a run.
* `launch` — a whole run.
-/

namespace CommandTree

/-! ### Arguments -/

/-- The options of the program. -/
structure Options where
  /-- The text that commands begin with. -/
  sigil : Option String
  /-- The player the input is sent as. -/
  player : String
  /-- The other players online. -/
  players : List String
  /-- Whether the acting player is an operator. -/
  isOp : Bool
  /-- What is logged. -/
  level : Option String
  /-- Whether the log is written as JSON. -/
  jsonLogs : Bool
  /-- The directory in which the settings of a project lie. -/
  project : Option String
  deriving DecidableEq, Repr

/-- The options without any arguments. -/
def Options.default : Options := ⟨none, "Steve", [], false, none, false, none⟩

/-- An option by its name. -/
inductive OptionName where
  /-- The text that commands begin with. -/
  | sigil
  /-- The acting player. -/
  | player
  /-- Other players. -/
  | players
  /-- Operator status. -/
  | op
  /-- What is logged. -/
  | level
  /-- The form of the log. -/
  | jsonLogs
  /-- The directory of a project. -/
  | project
  /-- The version of the program. -/
  | version
  /-- The options of the program. -/
  | help
  deriving DecidableEq, Repr

/-- The option with a long name. -/
def OptionName.ofLong? : String → Option OptionName
  | "prefix" => some .sigil
  | "player" => some .player
  | "players" => some .players
  | "op" => some .op
  | "log-level" => some .level
  | "log-json" => some .jsonLogs
  | "project-dir" => some .project
  | "version" => some .version
  | "help" => some .help
  | _ => none

/-- Whether an option takes a value. -/
def OptionName.takesValue : OptionName → Bool
  | .sigil | .player | .players | .level | .project => true
  | .op | .jsonLogs | .version | .help => false

/-- What the program is asked to do. -/
inductive Request where
  /-- To run the shell. -/
  | run (o : Options)
  /-- To show its version. -/
  | version
  /-- To show its options. -/
  | help
  deriving DecidableEq, Repr

/-- Why arguments cannot be understood. -/
inductive UsageError where
  /-- There is no such option. -/
  | unknownOption (argument : String)
  /-- The argument belongs to no option. -/
  | strayArgument (argument : String)
  /-- The option needs a value. -/
  | missingValue (name : OptionName)
  /-- The option takes no value. -/
  | unwantedValue (name : OptionName)
  /-- The option may be given only once. -/
  | repeated (name : OptionName)
  deriving DecidableEq, Repr

/-- Whether an argument looks like an option; a dash by itself does not. -/
def looksLikeOption (argument : String) : Bool :=
  argument.toList.head? == some '-' && argument != "-"

/-- The items of a list separated by commas. -/
def splitAtCommas (s : String) : List String := s.splitOn ","

/-- The options with a flag set. -/
def Options.withFlag (o : Options) : OptionName → Options
  | .op => { o with isOp := true }
  | .jsonLogs => { o with jsonLogs := true }
  | _ => o

/-- The options with a value set; the path of a directory must not be empty. -/
def Options.withValue (o : Options) (name : OptionName) (value : String) :
    Except UsageError Options :=
  match name with
  | .sigil => .ok { o with sigil := some value }
  | .player => .ok { o with player := value }
  | .players => .ok { o with players := o.players ++ splitAtCommas value }
  | .level => .ok { o with level := some value }
  | .project =>
    if value.isEmpty then .error (.missingValue .project) else .ok { o with project := some value }
  | _ => .ok o

/-- A long option cut at its first equals sign. -/
def splitLong (argument : String) : String × Option String :=
  let cs := argument.toList.drop 2
  let name := String.ofList (cs.takeWhile (· != '='))
  match cs.dropWhile (· != '=') with
  | [] => (name, none)
  | _ :: value => (name, some (String.ofList value))

/-- The value of an option: the one it came with, or else the next argument unless that looks like
an option; with the arguments after it. -/
def valueOf? (own : Option String) (rest : List String) : Option (String × Nat) :=
  match own, rest with
  | some value, _ => some (value, 0)
  | none, next :: _ => if looksLikeOption next then none else some (next, 1)
  | none, [] => none

namespace Request

/-- What the first character of a short option asks for. -/
def ofShort (argument : String) : Except UsageError Request :=
  match argument.toList with
  | '-' :: 'V' :: _ => .ok .version
  | '-' :: 'h' :: _ => .ok .help
  | _ => .error (.unknownOption argument)

/-- What the arguments ask for, given the options understood so far and the names already given.
The number `skip` counts arguments at the front that were taken as values. -/
def read (o : Options) (given : List OptionName) : Nat → List String → Except UsageError Request
  | _, [] => .ok (.run o)
  | skip + 1, _ :: rest => read o given skip rest
  | 0, argument :: rest =>
    if !looksLikeOption argument then .error (.strayArgument argument)
    else if argument = "--" then
      match rest with
      | [] => .ok (.run o)
      | stray :: _ => .error (.strayArgument stray)
    else if argument.toList[1]? != some '-' then ofShort argument
    else
      let (long, own) := splitLong argument
      match OptionName.ofLong? long with
      | none => .error (.unknownOption argument)
      | some name =>
        if name.takesValue then
          match valueOf? own rest with
          | none => .error (.missingValue name)
          | some (value, skip) =>
            if name ∈ given ∧ name ≠ .players then .error (.repeated name)
            else
              match o.withValue name value with
              | .error e => .error e
              | .ok o => read o (name :: given) skip rest
        else if own.isSome then .error (.unwantedValue name)
        else if name = .version then .ok .version
        else if name = .help then .ok .help
        else if name ∈ given then .error (.repeated name)
        else read (o.withFlag name) (name :: given) 0 rest

/-- What the arguments of the program ask for. -/
def ofArguments (arguments : List String) : Except UsageError Request :=
  read .default [] 0 arguments

end Request

/-! ### A run -/

/-- What the program finds outside itself. -/
structure Surroundings where
  /-- The variables of the environment. -/
  environment : String → Option String
  /-- The directory in which the program runs. -/
  directory : String
  /-- The global settings file. -/
  globalFile : String × FileContent
  /-- The settings file of the project in a directory. -/
  projectFile : String → String × FileContent

/-- The layer that the options set. -/
def Options.overlay (o : Options) : Overlay :=
  ⟨o.sigil, o.level, if o.jsonLogs then some true else none⟩

/-- The directory of the project: the option, or else the environment, or else the directory in
which the program runs. -/
def Options.projectDirectory (o : Options) (around : Surroundings) : String :=
  (o.project <|> around.environment "CHATCMD_PROJECT_DIR").getD around.directory

/-- The settings of a run.  They must be usable without the options of the program, and again with
them. -/
def Options.settings (o : Options) (around : Surroundings) : Except SettingsError Settings := do
  let files := [around.globalFile, around.projectFile (o.projectDirectory around)]
  let settings ← Settings.load files around.environment
  (settings.merge o.overlay).checked

/-- The world of a run: the acting player, and the others who are not them. -/
def Options.world (o : Options) : World :=
  (o.players.filter (· != o.player)).foldl (fun w name => w.join name false)
    (World.empty.join o.player o.isOp)

/-- The commands of a run. -/
def builtinCommands (H : Host) : Registry H := Registry.ofSteps [.help, .teleport]

/-- The program of a host without actions. -/
def noActions : Program World.host := fun action _ _ _ => nomatch action

/-- The shell of a run. -/
def Options.openShell (o : Options) (settings : Settings) :
    Except StartError (Shell World.host) := do
  let dispatcher ← Dispatcher.create (builtinCommands World.host) settings.sigil noActions
  return ⟨dispatcher, o.player, .start o.world⟩

/-- The name and version of the program. -/
def versionLine : String := "chatcmd 0.1.0-alpha.1"

/-- How the program is called. -/
def usageLine : String :=
  "Usage: chatcmd [--prefix V] [--player V] [--players V,...] [--op] [--log-level V] " ++
    "[--log-json] [--project-dir V]"

/-- What the program leaves behind: its exit code and what it wrote. -/
structure RunReport where
  /-- Zero for success, one for settings or input it cannot use, two for arguments it cannot
  understand. -/
  code : Nat
  /-- The lines written. -/
  output : List String
  deriving DecidableEq, Repr

/-- Whether the environment names the project by no text at all, which counts as an argument that
cannot be understood. -/
def emptyProject (o : Options) (around : Surroundings) : Bool :=
  o.project.isNone && around.environment "CHATCMD_PROJECT_DIR" == some ""

/-- Why a run does not begin. -/
inductive LaunchError where
  /-- Its arguments. -/
  | usage (e : UsageError)
  /-- Its settings. -/
  | start (e : StartError)
  deriving DecidableEq, Repr

/-- The exit code of a run that does not begin. -/
def LaunchError.code : LaunchError → Nat
  | .usage _ => 2
  | .start _ => 1

/-- A run as far as its first line: the shell, or a text to show instead. -/
def prepare (arguments : List String) (around : Surroundings) :
    Except LaunchError (String ⊕ Shell World.host) :=
  match Request.ofArguments arguments with
  | .error e => .error (.usage e)
  | .ok .version => .ok (.inl versionLine)
  | .ok .help => .ok (.inl usageLine)
  | .ok (.run o) =>
    if emptyProject o around then .error (.usage (.missingValue .project))
    else
      match o.settings around with
      | .error e => .error (.start (.settings e))
      | .ok settings =>
        match o.openShell settings with
        | .error e => .error (.start e)
        | .ok shell => .ok (.inr shell)

/-- A whole run over an input. -/
def launch (arguments : List String) (around : Surroundings) (input : List UInt8) : RunReport :=
  match prepare arguments around with
  | .error e => ⟨e.code, []⟩
  | .ok (.inl text) => ⟨0, [text]⟩
  | .ok (.inr shell) =>
    let result := shell.run World.seat input
    ⟨if result.broken.isSome then 1 else 0, result.output⟩

end CommandTree
