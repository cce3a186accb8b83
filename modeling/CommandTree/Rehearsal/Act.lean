import CommandTree.Dispatch
import CommandTree.Rehearsal.Cast

/-!
# Acts

In a rehearsal the handlers follow a script too.  Each call is written down, and
players may be out of sight for a number of lookups.

## Main definitions

* `Deed`, `Returns`, `Act` — what a handler does.
* `Rehearsal`, `Rehearsal.host` — a host with what the rehearsal keeps.
* `Act.program` — what acts do.
-/

namespace CommandTree

/-- What a handler does. -/
inductive Deed where
  /-- End well. -/
  | done
  /-- End quietly without success. -/
  | fail
  /-- End without success the first time and well afterwards. -/
  | failOnce
  /-- End with an error. -/
  | error (message : String) (causes : List String)
  /-- End abruptly, with a text that is put together or something that is no text. -/
  | panic (text : Option String)
  /-- End abruptly, with a text that stands in the program. -/
  | panicStatic (text : String)
  /-- Make the player leave, then end in the given way. -/
  | leave (ending : Ending)
  /-- Let time pass, then end well. -/
  | sleep (t : Span)
  /-- Tell the player a text and then what the handler was told. -/
  | reply (find message : String)

/-- What a handler can express by its result. -/
inductive Returns where
  /-- Everything. -/
  | everything
  /-- Nothing: whatever it does counts as success. -/
  | nothing
  /-- Success or not, but no error. -/
  | completion
  /-- Success or an error. -/
  | errors
  deriving DecidableEq, Repr

/-- An ending as far as a result can express it; an abrupt end always shows. -/
def Returns.restrict : Returns → Ending → Ending
  | .nothing, .fail => .done
  | .nothing, .raised _ => .done
  | .completion, .raised _ => .fail
  | .errors, .fail => .done
  | _, ending => ending

/-- A handler that follows a script. -/
structure Act where
  /-- Tells the act from others that do the same. -/
  key : Nat
  /-- What it does. -/
  deed : Deed
  /-- What it can express by its result. -/
  returns : Returns

/-- A call of an act. -/
structure Called (W : Type) where
  /-- The node the act is attached to. -/
  node : NodeId
  /-- The values it was called with. -/
  values : List (Value W)

/-- The state of a host with what the rehearsal keeps. -/
structure Rehearsal (B : Host) where
  /-- The state of the host. -/
  base : B.State
  /-- The calls so far, oldest first. -/
  calls : List (Called B.Who)
  /-- The keys of the acts that were called before. -/
  spent : List Nat
  /-- For how many lookups players are still out of sight. -/
  hidden : List (String × Nat)

namespace Rehearsal

/-- A rehearsal that has not begun. -/
def start {B : Host} (base : B.State) : Rehearsal B := ⟨base, [], [], []⟩

/-- A lookup of a player that first makes up for those to be missed. -/
def find {B : Host} (name : String) (s : Rehearsal B) : Option B.Who × Rehearsal B :=
  match s.hidden.lookup name with
  | some (n + 1) =>
    (none, { s with hidden := (name, n) :: s.hidden.filter (·.1 != name) })
  | _ =>
    let (who, base) := B.find name s.base
    (who, { s with base := base })

/-- The rehearsal with players out of sight for the given numbers of lookups. -/
def hide {B : Host} (s : Rehearsal B) (names : List (String × Nat)) : Rehearsal B :=
  { s with hidden := names ++ s.hidden.filter fun (name, _) => (names.lookup name).isNone }

/-- The calls since they were last asked for. -/
def takeCalls {B : Host} (s : Rehearsal B) : List (Called B.Who) × Rehearsal B :=
  (s.calls, { s with calls := [] })

/-- A host in rehearsal. -/
abbrev host (B : Host) : Host where
  Who := B.Who
  State := Rehearsal B
  Action := Act
  name := B.name
  isOp s := B.isOp s.base
  position s := B.position s.base
  view s := B.view s.base
  find := find
  isValid who s :=
    let (answer, base) := B.isValid who s.base
    (answer, { s with base := base })
  deliver who m s := { s with base := B.deliver who m s.base }
  move? who target o s := (B.move? who target o s.base).map fun base => { s with base := base }

end Rehearsal

/-- What acts do, given how a player leaves. -/
def Act.program {B : Host} (leave : B.Who → B.State → B.State) : Program (Rehearsal.host B) :=
  fun act call values s =>
    let s : Rehearsal B := { s with calls := s.calls ++ [⟨call.node, values⟩] }
    let reply : Reply (Rehearsal.host B) :=
      match act.deed with
      | .done => ⟨.done, 0, s⟩
      | .fail => ⟨.fail, 0, s⟩
      | .failOnce =>
        if act.key ∈ s.spent then ⟨.done, 0, s⟩
        else ⟨.fail, 0, { s with spent := act.key :: s.spent }⟩
      | .error message causes => ⟨.error message causes, 0, s⟩
      | .panic text => ⟨.panic (text.elim .other .string), 0, s⟩
      | .panicStatic text => ⟨.panic (.str text), 0, s⟩
      | .leave ending => ⟨ending, 0, { s with base := leave call.who s.base }⟩
      | .sleep t => ⟨.done, t, s⟩
      | .reply name message =>
        let (found, s) := s.find name
        .telling call
          [.error message,
            .text (joinWith " " [B.name call.who, call.sigil, toString call.registry.size,
              if found.isSome then "true" else "false"])] .done s
    { reply with ending := act.returns.restrict reply.ending }

end CommandTree
