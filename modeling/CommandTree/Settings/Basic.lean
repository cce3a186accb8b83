import CommandTree.Json.Reader
import CommandTree.Settings.Error

/-!
# Settings

Settings come in layers: the defaults, the global file, the file of the project, the
environment, and the options of the command line.  Each layer may set some of them,
and a higher layer wins.  What the layers give together is checked once they are
merged.

## Main definitions

* `Settings`, `Overlay` — all settings, and those that a layer sets.
* `Settings.merge` — a layer laid over settings.
* `Overlay.ofJson?`, `Settings.ofJson?`, `Settings.toJson` — settings as documents.
* `FileContent`, `Settings.load` — settings from files and the environment.
-/

namespace CommandTree

/-- All settings. -/
structure Settings where
  /-- The text that commands begin with. -/
  sigil : String
  /-- What is logged. -/
  level : String
  /-- Whether the log is written as JSON. -/
  jsonLogs : Bool
  deriving DecidableEq, Repr

/-- The settings that a layer sets. -/
structure Overlay where
  /-- The text that commands begin with. -/
  sigil : Option String
  /-- What is logged. -/
  level : Option String
  /-- Whether the log is written as JSON. -/
  jsonLogs : Option Bool
  deriving DecidableEq, Repr

/-- The layer that sets nothing. -/
def Overlay.empty : Overlay := ⟨none, none, none⟩

namespace Settings

/-- The settings without any layer. -/
def default : Settings := ⟨"-", "info", false⟩

/-- The settings with a layer laid over them. -/
def merge (s : Settings) (o : Overlay) : Settings :=
  ⟨o.sigil.getD s.sigil, o.level.getD s.level, o.jsonLogs.getD s.jsonLogs⟩

/-- What is wrong with the settings. -/
def error? (s : Settings) : Option SettingsError := sigilError? s.sigil

end Settings

/-! ### Settings as documents -/

/-- The values under the given keys of an object in which none of them is repeated, or the items of
an array in place of them; items at the end of an array may be missing. -/
def Json.members? (keys : List String) (j : Json) : Option (List (Option Json)) :=
  match j with
  | .object _ => j.fields?.bind fun fields => keys.mapM fun key => Json.atMostOne? key fields
  | .array items =>
    if items.length ≤ keys.length then
      some (items.map some ++ List.replicate (keys.length - items.length) none)
    else none
  | _ => none

/-- The same, where no item of an array may be missing. -/
def Json.allMembers? (keys : List String) (j : Json) : Option (List (Option Json)) :=
  match j with
  | .array items => if items.length = keys.length then some (items.map some) else none
  | _ => j.members? keys

/-- The truth value that a document stands for. -/
def Json.bool? : Json → Option Bool
  | .bool b => some b
  | _ => none

/-- A value that may be missing or `null`, which mean the same. -/
def Json.optional? {α : Type} (read : Json → Option α) : Option Json → Option (Option α)
  | none => some none
  | some .null => some none
  | some j => (read j).map some

/-- A value that must be there. -/
def Json.required? {α : Type} (read : Json → Option α) (j : Option Json) : Option α := j.bind read

/-- The section of a settings file about dispatching. -/
def Overlay.sigilOfJson? (j : Json) : Option (Option String) := do
  match ← j.allMembers? ["prefix"] with
  | [sigil] => Json.optional? Json.text? sigil
  | _ => none

/-- The section of a settings file about logging. -/
def Overlay.loggingOfJson? (j : Json) : Option (Option String × Option Bool) := do
  match ← j.allMembers? ["level", "json"] with
  | [level, json] => return (← Json.optional? Json.text? level, ← Json.optional? Json.bool? json)
  | _ => none

/-- The layer that a settings file stands for.  Sections may be missing but not `null`. -/
def Overlay.ofJson? (j : Json) : Option Overlay := do
  match ← j.members? ["dispatch", "logging"] with
  | [dispatch, logging] =>
    let sigil ← (dispatch.map Overlay.sigilOfJson?).getD (some none)
    let (level, json) ← (logging.map Overlay.loggingOfJson?).getD (some (none, none))
    return ⟨sigil, level, json⟩
  | _ => none

/-- The complete section about dispatching. -/
def Settings.sigilOfJson? (j : Json) : Option String := do
  match ← j.allMembers? ["prefix"] with
  | [sigil] => Json.required? Json.text? sigil
  | _ => none

/-- The complete section about logging. -/
def Settings.loggingOfJson? (j : Json) : Option (String × Bool) := do
  match ← j.allMembers? ["level", "json"] with
  | [level, json] => return (← Json.required? Json.text? level, ← Json.required? Json.bool? json)
  | _ => none

/-- The settings that a document stands for.  A section may be missing, which gives its defaults,
but one that is there must be complete. -/
def Settings.ofJson? (j : Json) : Option Settings := do
  match ← j.members? ["dispatch", "logging"] with
  | [dispatch, logging] =>
    let sigil ← (dispatch.map Settings.sigilOfJson?).getD (some Settings.default.sigil)
    let (level, json) ← (logging.map Settings.loggingOfJson?).getD
      (some (Settings.default.level, Settings.default.jsonLogs))
    return ⟨sigil, level, json⟩
  | _ => none

/-- Settings as a document. -/
def Settings.toJson (s : Settings) : Json :=
  .ofFields [("dispatch", .ofFields [("prefix", .ofText s.sigil)]),
    ("logging", .ofFields [("level", .ofText s.level), ("json", .bool s.jsonLogs)])]

/-! ### Loading -/

/-- What stands where a settings file is looked for. -/
inductive FileContent where
  /-- Nothing. -/
  | absent
  /-- Something that holds no text. -/
  | unreadable
  /-- A file with this text. -/
  | text (s : String)
  deriving DecidableEq, Repr

/-- The layer that a settings file of the given name stands for. -/
def Overlay.ofFile (name : String) : FileContent → Except SettingsError Overlay
  | .absent => .ok .empty
  | .unreadable => .error (.unreadable name)
  | .text s =>
    match (Json.parse? s).bind Overlay.ofJson? with
    | some overlay => .ok overlay
    | none => .error (.unparsable name)

/-- The truth value that a word of the environment stands for. -/
def boolOfWord? : String → Option Bool
  | "true" => some true
  | "false" => some false
  | _ => none

/-- The layer that an environment stands for.  What is no truth value sets none. -/
def Overlay.ofEnvironment (environment : String → Option String) : Overlay :=
  ⟨environment "CHATCMD_PREFIX", environment "CHATCMD_LOG_LEVEL",
    (environment "CHATCMD_LOG_JSON").bind boolOfWord?⟩

/-- The settings if they can be used. -/
def Settings.checked (s : Settings) : Except SettingsError Settings :=
  match s.error? with
  | some e => .error e
  | none => .ok s

/-- The settings of several files, from the lowest to the highest, and the environment. -/
def Settings.load (files : List (String × FileContent)) (environment : String → Option String) :
    Except SettingsError Settings := do
  let overlays ← files.mapM fun (name, content) => Overlay.ofFile name content
  ((overlays.foldl Settings.merge .default).merge (.ofEnvironment environment)).checked

end CommandTree
