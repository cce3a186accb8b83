import CommandTree.Cooldown
import CommandTree.Help
import CommandTree.Resolve
import CommandTree.Settings.Error
import CommandTree.Suggest.Rank
import CommandTree.Suggest.Score
import CommandTree.Teleport
import CommandTree.Token

/-!
# Dispatching chat messages

A message that begins with the sigil is a command.  Its first word chooses a
command, the others a path below it; the handler nearest to the end of the path is
called with the values of the words.  A failure on the way is reported to the
player.

## Main definitions

* `ErrorChain`, `Payload` — what a handler that goes wrong leaves behind.
* `Ending`, `Reply`, `Call`, `Program` — what handlers are told and how they end.
* `Task.perform` — carrying out a task.
* `Dispatcher`, `Session` — what is fixed and what changes between messages.
* `Outcome`, `Dispatched` — what became of a message.
* `Dispatcher.dispatch` — one message.
-/

namespace CommandTree

/-! ### Handlers at work -/

/-- An error: the texts of itself and of all that led to it, the nearest first. -/
structure ErrorChain where
  texts : List String
  texts_ne_nil : texts ≠ []
  deriving DecidableEq, Repr

namespace ErrorChain

/-- The text of the error itself. -/
def message (e : ErrorChain) : String := e.texts.head e.texts_ne_nil

/-- The texts of what led to it. -/
def causes (e : ErrorChain) : List String := e.texts.drop 1

end ErrorChain

/-- What a handler that ends abruptly leaves behind. -/
inductive Payload where
  /-- A text that was put together. -/
  | string (text : String)
  /-- A text that stands in the program. -/
  | str (text : String)
  /-- Something that is no text. -/
  | other
  deriving DecidableEq, Repr

/-- What is said of something that is no text. -/
def unknownPanic : String := "handler panicked"

/-- The text that is left behind. -/
def Payload.message : Payload → String
  | .string text => text
  | .str text => text
  | .other => unknownPanic

/-- How a handler ends. -/
inductive Ending where
  /-- With success. -/
  | done
  /-- Quietly without success: the use does not count. -/
  | fail
  /-- With an error. -/
  | raised (e : ErrorChain)
  /-- Abruptly. -/
  | panic (payload : Payload)
  deriving DecidableEq, Repr

/-- The end with an error of the given text, and what led to it. -/
def Ending.error (message : String) (causes : List String) : Ending :=
  .raised ⟨message :: causes, List.cons_ne_nil message causes⟩

/-- What a handler is told besides its values. -/
structure Call (H : Host) where
  /-- The player who gave the command. -/
  who : H.Who
  /-- All commands. -/
  registry : Registry H
  /-- The text that commands begin with. -/
  sigil : String
  /-- The node the handler is attached to. -/
  node : NodeId

/-- What a handler leaves behind. -/
structure Reply (H : Host) where
  /-- How it ended. -/
  ending : Ending
  /-- How much time passed. -/
  elapsed : Span
  /-- The state of the host. -/
  state : H.State

/-- What the actions of a host do. -/
abbrev Program (H : Host) := H.Action → Call H → List (Value H.Who) → H.State → Reply H

variable {H : Host}

/-- The reply of a handler that does nothing but tell the player something. -/
def Reply.telling (call : Call H) (messages : List Message) (ending : Ending) (s : H.State) :
    Reply H :=
  ⟨ending, 0, H.deliverAll call.who messages s⟩

/-- Carrying out a task of the help command. -/
def HelpTask.perform (task : HelpTask) (call : Call H) (values : List (Value H.Who))
    (s : H.State) : Reply H :=
  let answer :=
    match task, values with
    | .page, .integer n :: _ => call.registry.listing s call.who call.sigil n
    | .usage, .text name :: _ => call.registry.explanation s call.who call.sigil name
    | _, _ => call.registry.listing s call.who call.sigil 1
  .telling call answer .done s

/-- Carrying out a task of the teleport command. -/
def TeleportTask.perform (task : TeleportTask) (call : Call H) (values : List (Value H.Who))
    (s : H.State) : Reply H :=
  match task.move? s call.who values with
  | none => .telling call [] .fail s
  | some move =>
    match H.move? move.who move.target move.orientation s with
    | none => .telling call [.error (H.name move.who ++ " cannot be teleported")] .fail s
    | some moved =>
      .telling call [.text ("Teleported " ++ H.name move.who ++ " to " ++ move.target.text)] .done
        moved

/-- Carrying out a task. -/
def Task.perform (program : Program H) (task : Task H.Action) (call : Call H)
    (values : List (Value H.Who)) (s : H.State) : Reply H :=
  match task with
  | .help task => task.perform call values s
  | .teleport task => task.perform call values s
  | .host action => program action call values s

/-- The first kind of a list to which the value in its place does not convert. -/
def firstMismatch? : List ValueKind → List (Value H.Who) → Option ValueKind
  | [], _ => none
  | kind :: _, [] => some kind
  | kind :: kinds, value :: values =>
    if value.converts kind then firstMismatch? kinds values else some kind

/-! ### Sessions -/

/-- What is fixed between messages. -/
structure Dispatcher (H : Host) where
  /-- All commands. -/
  registry : Registry H
  /-- The text that commands begin with. -/
  sigil : String
  /-- What the actions of the host do. -/
  program : Program H
  /-- How well a name resembles a mistyped one. -/
  score : String → String → Option Nat

/-- What changes between messages. -/
structure Session (H : Host) where
  /-- The state of the host. -/
  host : H.State
  /-- The time that has passed. -/
  clock : Span
  /-- The last uses of commands. -/
  cooldowns : Cooldowns

/-- A session that begins with the given state of the host. -/
def Session.start (s : H.State) : Session H := ⟨s, 0, .empty⟩

/-- The session after some time. -/
def Session.wait (s : Session H) (t : Span) : Session H := { s with clock := s.clock + t }

/-- Why a dispatcher cannot begin its work. -/
inductive StartError where
  /-- A setting it cannot work with. -/
  | settings (e : SettingsError)
  /-- Commands in conflict. -/
  | tree (e : BuildError)
  deriving DecidableEq, Repr

/-- The wording of a start error. -/
def StartError.message : StartError → String
  | .settings e => e.message
  | .tree e => e.message

/-- The dispatcher for a registry; the sigil must not be empty and the commands not in
conflict. -/
def Dispatcher.create (registry : Registry H) (sigil : String) (program : Program H) :
    Except StartError (Dispatcher H) :=
  if sigil.isEmpty then .error (.settings .emptySigil)
  else
    match registry.clash? with
    | some e => .error (.tree e)
    | none => .ok ⟨registry, sigil, program, Suggest.score?⟩

/-! ### Outcomes -/

/-- What became of a message. -/
inductive Outcome where
  /-- It was no command. -/
  | ignored
  /-- The handler ended with success. -/
  | executed
  /-- The handler ended quietly without success. -/
  | softFailed
  /-- The player left before the command was over. -/
  | senderGone
  /-- The command was not carried out. -/
  | failed (failure : Failure)
  deriving DecidableEq, Repr

/-- A call of a handler with the values it was given. -/
structure Entry (H : Host) where
  /-- The node the handler is attached to. -/
  node : NodeId
  /-- The handler. -/
  handler : Handler H
  /-- The values, one for each of its parameters. -/
  values : List (Value H.Who)

/-- What became of a message, and what it changed. -/
structure Dispatched (H : Host) where
  /-- What became of it. -/
  outcome : Outcome
  /-- The handler that was called, if any was. -/
  entry : Option (Entry H)
  /-- The session afterwards. -/
  session : Session H

/-! ### Values -/

/-- The coordinate that a word stands for; a word that is missing or stands for none leaves the
player where they are. -/
def coordinateOr (word : Option String) : Coordinate :=
  (word.bind Coordinate.read?).getD (.relative 0)

/-- The place that the first three words stand for. -/
def locationOf (who : H.Who) (words : List String) (s : H.State) : Point :=
  locate (coordinateOr words[0]?) (coordinateOr words[1]?) (coordinateOr words[2]?)
    (H.position s who) (H.view s who)

namespace Registry

/-- What the words along a path convert to: one reading for each node that contributes a value.  An
axis takes the words from its own on; a word that no longer converts gives no value. -/
def readings (r : Registry H) (who : H.Who) :
    List NodeId → List String → H.State → List (Option (Value H.Who)) × H.State
  | id :: path, word :: words, s =>
    match r.node? id with
    | none => r.readings who path words s
    | some node =>
      if node.argument.valueKind?.isNone then r.readings who path words s
      else if node.argument.isAxis then
        let (rest, s') := r.readings who path words s
        (some (.location (locationOf who (word :: words) s)) :: rest, s')
      else
        let (value, s) := node.argument.accept r.commandNames word s
        let (rest, s) := r.readings who path words s
        (value :: rest, s)
  | _, _, s => ([], s)

/-- The values of the words along a path. -/
def extract (r : Registry H) (who : H.Who) (path : List NodeId) (words : List String)
    (s : H.State) : List (Value H.Who) × H.State :=
  let (readings, s) := r.readings who path words s
  (readings.filterMap id, s)

/-- The deepest node with a handler among a root and a path below it, with that handler and the
part of the path up to the node. -/
def deepestHandler? (r : Registry H) (root : NodeId) :
    List NodeId → Option (NodeId × Handler H × List NodeId)
  | [] => (r.handler? root).map fun handler => (root, handler, [])
  | id :: path =>
    match r.deepestHandler? id path with
    | some (node, handler, taken) => some (node, handler, id :: taken)
    | none => (r.handler? root).map fun handler => (root, handler, [])

end Registry

/-! ### The stages of a dispatch -/

namespace Dispatcher

/-- The name of a command and the words after it; none if the message is no command. -/
def words? (d : Dispatcher H) (text : String) : Option (String × List String) :=
  if d.sigil.toList.isPrefixOf text.toList then
    match Token.tokenize (String.ofList (text.toList.drop d.sigil.length)) with
    | [] => none
    | name :: args => some (name, args)
  else none

/-- The command with the given name or alias, if the player may use it now. -/
def select (d : Dispatcher H) (who : H.Who) (name : String) (s : Session H) :
    Except Failure NodeId × Session H :=
  match d.registry.findRoot? name with
  | none => (.error (.notFound name (d.registry.similarNames d.score s.host who name)), s)
  | some root =>
    match d.registry.node? root with
    | none => (.error (.notFound name []), s)
    | some node =>
      if node.data.permits s.host who then
        match node.data.cooldown with
        | none => (.ok root, s)
        | some window =>
          match s.cooldowns.remaining (H.name who, root) window s.clock with
          | (some left, table) =>
            (.error (.onCooldown node.data.name left), { s with cooldowns := table })
          | (none, table) => (.ok root, { s with cooldowns := table })
      else (.error (.permissionDenied node.data.name node.data.denial), s)

/-- The path of a command's words, its failures as the player sees them. -/
def resolve (d : Dispatcher H) (who : H.Who) (root : NodeId) (args : List String) (s : H.State) :
    Except Failure (List NodeId) × H.State :=
  match d.registry.resolve who d.sigil root args s with
  | (.ok path, s) => (.ok path, s)
  | (.error (.malformed e), s) => (.error (.malformed e), s)
  | (.error (.denied id), s) =>
    match d.registry.node? id with
    | none => (.error (.permissionDenied "" none), s)
    | some node => (.error (.permissionDenied node.data.name node.data.denial), s)

/-- The reply of a handler to its values: without the handler's own work if one of them does not
convert. -/
def invoke (d : Dispatcher H) (entry : Entry H) (call : Call H) (values : List (Value H.Who))
    (s : H.State) : Option (Entry H) × Reply H :=
  match firstMismatch? entry.handler.params values with
  | some kind => (none, ⟨.error ("argument does not convert to " ++ kind.word) [], 0, s⟩)
  | none => (some entry, entry.handler.task.perform d.program call entry.values s)

/-- The failure of a handler that did not come to an end. -/
def handlerFailure (command message : String) (causes : List String) : Outcome :=
  .failed (.handlerFailed command (failureReport command message causes).compact)

/-- The outcome of a command whose handler came to an end while its player stayed. -/
def conclude (command : String) : Ending → Outcome
  | .done => .executed
  | .fail => .softFailed
  | .raised e => handlerFailure command e.message e.causes
  | .panic payload => handlerFailure command payload.message []

/-- The session after a command was executed: a use counts if the command has a cooldown. -/
def recordUse (d : Dispatcher H) (who : H.Who) (root : NodeId) (s : Session H) : Session H :=
  if ((d.registry.node? root).bind (·.data.cooldown)).isSome then
    { s with cooldowns := s.cooldowns.record (H.name who, root) s.clock }
  else s

/-- What becomes of a command whose handler is known.  The player must still be connected when the
handler begins, and again when it has ended. -/
def call (d : Dispatcher H) (who : H.Who) (root node : NodeId) (handler : Handler H)
    (values : List (Value H.Who)) (s : Session H) : Dispatched H :=
  match H.isValid who s.host with
  | (false, h) =>
    let (_, h) := H.isValid who h
    ⟨.senderGone, none, { s with host := h }⟩
  | (true, h) =>
    let entry : Entry H := ⟨node, handler, values.take handler.params.length⟩
    let (entered, reply) := d.invoke entry ⟨who, d.registry, d.sigil, node⟩ values h
    let (stayed, h) := H.isValid who reply.state
    let s : Session H := { s with host := h, clock := s.clock + reply.elapsed }
    if stayed then
      let outcome := conclude (d.registry.describe node) reply.ending
      ⟨outcome, entered, if outcome = .executed then d.recordUse who root s else s⟩
    else ⟨.senderGone, entered, s⟩

/-- What becomes of a command whose words are resolved. -/
def follow (d : Dispatcher H) (who : H.Who) (root : NodeId) (path : List NodeId)
    (args : List String) (s : Session H) : Dispatched H :=
  match H.isValid who s.host with
  | (false, h) => ⟨.senderGone, none, { s with host := h }⟩
  | (true, h) =>
    match d.registry.deepestHandler? root path with
    | none =>
      let last := (path.getLast?).getD root
      ⟨.failed (.incomplete (d.sigil ++ d.registry.describe last)), none, { s with host := h }⟩
    | some (node, handler, taken) =>
      let (values, h) := d.registry.extract who taken args h
      d.call who root node handler values { s with host := h }

/-- What becomes of a command before the player is told of a failure. -/
def attempt (d : Dispatcher H) (who : H.Who) (name : String) (args : List String)
    (s : Session H) : Dispatched H :=
  match d.select who name s with
  | (.error failure, s) => ⟨.failed failure, none, s⟩
  | (.ok root, s) =>
    match d.resolve who root args s.host with
    | (.error failure, h) => ⟨.failed failure, none, { s with host := h }⟩
    | (.ok path, h) => d.follow who root path args { s with host := h }

/-- What the player is told of an outcome. -/
def notices : Outcome → List Message
  | .failed failure => failure.notices
  | _ => []

/-- One chat message of a player. -/
def dispatch (d : Dispatcher H) (who : H.Who) (text : String) (s : Session H) : Dispatched H :=
  match d.words? text with
  | none => ⟨.ignored, none, s⟩
  | some (name, args) =>
    let result := d.attempt who name args s
    { result with
      session :=
        { result.session with
          host := H.deliverAll who (notices result.outcome) result.session.host } }

end Dispatcher

end CommandTree
