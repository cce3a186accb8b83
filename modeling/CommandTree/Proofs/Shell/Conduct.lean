import CommandTree.Proofs.Dispatch.Effects
import CommandTree.Proofs.World
import CommandTree.Shell

/-!
# What a dispatch does in a world

Where the players of a host live in a world, its questions leave this world alone.  So a
dispatch does there what the handler does that it enters, and at the end tells the player
of a failure.  The tasks of the built-in commands send messages to the one who gave the
command, and teleporting moves somebody first.

## Main definitions

* `TeleportTask.changes` — what teleporting does in a world.
* `Seat.Conduct` — what a host and its actions do in the world.
* `Seat.Conduct.doings` — what a dispatch does there.

## Main results

* `Seat.Conduct.world_dispatch` — it does nothing else.
* `TeleportTask.of_move_mem` — whom teleporting moves, and that it then ends well.
-/

namespace CommandTree

variable {H : Host}

open World (Change)

/-- What it does in the world to tell a player something. -/
def told (name : String) (messages : List Message) : List Change :=
  messages.map (Change.message name)

/-! ### The tasks of the built-in commands -/

/-- What a help task tells the one who gave the command. -/
def HelpTask.answer (task : HelpTask) (call : Call H) (values : List (Value H.Who))
    (s : H.State) : List Message :=
  match task, values with
  | .page, .integer n :: _ => call.registry.listing s call.who call.sigil n
  | .usage, .text name :: _ => call.registry.explanation s call.who call.sigil name
  | _, _ => call.registry.listing s call.who call.sigil 1

theorem HelpTask.perform_eq (task : HelpTask) (call : Call H) (values : List (Value H.Who))
    (s : H.State) :
    task.perform call values s = .telling call (task.answer call values s) .done s :=
  rfl

/-- What teleporting does in the world: it moves somebody and says so, or says that this player
cannot be moved. -/
def TeleportTask.changes (task : TeleportTask) (call : Call H) (values : List (Value H.Who))
    (s : H.State) : List Change :=
  match task.move? s call.who values with
  | none => []
  | some move =>
    match H.move? move.who move.target move.orientation s with
    | none =>
      told (H.name call.who) [.error (H.name move.who ++ " cannot be teleported")]
    | some _ =>
      .move (H.name move.who) move.target move.orientation ::
        told (H.name call.who)
          [.text ("Teleported " ++ H.name move.who ++ " to " ++ move.target.text)]

theorem move_notMem_told {name other : String} {messages : List Message} {target : Point}
    {o : Orientation} : Change.move name target o ∉ told other messages := by
  intro h
  obtain ⟨m, -, hm⟩ := List.mem_map.mp h
  cases hm

/-- Who is moved is the subject of the task, and then the task ends well. -/
theorem TeleportTask.of_move_mem {task : TeleportTask} {call : Call H}
    {values : List (Value H.Who)} {s : H.State} {name : String} {target : Point} {o : Orientation}
    (h : Change.move name target o ∈ task.changes call values s) :
    (task.perform call values s).ending = .done ∧
      ∃ move, task.move? s call.who values = some move ∧ H.name move.who = name := by
  rw [changes] at h
  rw [perform]
  cases hmove : task.move? s call.who values with
  | none => simp [hmove] at h
  | some move =>
    cases hmoved : H.move? move.who move.target move.orientation s with
    | none =>
      simp only [hmove, hmoved] at h
      exact absurd h move_notMem_told
    | some moved =>
      simp only [hmove, hmoved, List.mem_cons, move_notMem_told, or_false, Change.move.injEq] at h
      simp only [hmoved]
      exact ⟨rfl, move, rfl, h.1.symm⟩

/-- Who is teleported. -/
def TeleportTask.subject : TeleportTask → Subject
  | .toPlayer subject => subject
  | .toPlace subject _ => subject

/-- A task whose subject is the one who gave the command moves nobody else. -/
theorem TeleportTask.who_of_move? {task : TeleportTask} {s : H.State} {sender : H.Who}
    {values : List (Value H.Who)} {move : Move H.Who} (htask : task.subject = .sender)
    (h : task.move? s sender values = some move) : move.who = sender := by
  cases task with
  | toPlayer subject =>
    obtain rfl : subject = .sender := htask
    simp only [move?, Subject.take?] at h
    split at h
    · next heq => cases h; cases heq; rfl
    · cases h
  | toPlace subject gaze =>
    obtain rfl : subject = .sender := htask
    simp only [move?, Subject.take?] at h
    split at h
    · next heq =>
      obtain ⟨o, -, rfl⟩ := Option.map_eq_some_iff.mp h
      cases heq
      rfl
    · cases h

/-! ### Hosts -/

/-- What a host does in the world that its players live in.  Questions leave it alone; a player who
is told something gets a message; who is moved is moved there; and each action does a number of
such things. -/
structure Seat.Conduct (seat : Seat H) (d : Dispatcher H) where
  /-- What an action does in the world. -/
  changes : H.Action → Call H → List (Value H.Who) → H.State → List Change
  /-- It does this and nothing else. -/
  action : ∀ a call values h,
    seat.world (d.program a call values h).state = (seat.world h).changed (changes a call values h)
  /-- The player with a name has this name. -/
  name_who : ∀ name, H.name (seat.who name) = name
  deliver : ∀ who m h, seat.world (H.deliver who m h) = (seat.world h).send (H.name who) m
  move : ∀ {who target o h h'}, H.move? who target o h = some h' →
    seat.world h' = (seat.world h).teleport (H.name who) target o
  find : ∀ name h, seat.world (H.find name h).2 = seat.world h
  isValid : ∀ who h, seat.world (H.isValid who h).2 = seat.world h
  /-- A type of the host is asked for a word. -/
  accept : ∀ {id : NodeId} {node : Node H} {type : CustomType H},
    d.registry.node? id = some node → node.argument.type = .custom type →
    ∀ commands word h, seat.world (type.accept commands word h).2 = seat.world h
  setWorld : ∀ w h, seat.world (seat.setWorld w h) = w

namespace Seat.Conduct

variable {seat : Seat H} {d : Dispatcher H} (c : seat.Conduct d)

include c in
theorem world_queried {who : H.Who} {h t : H.State} (hq : d.Queried who h t) :
    seat.world t = seat.world h :=
  hq.read_eq c.find c.isValid c.accept

include c in
theorem world_deliverAll (who : H.Who) (messages : List Message) (h : H.State) :
    seat.world (H.deliverAll who messages h) =
      (seat.world h).changed (told (H.name who) messages) := by
  induction messages generalizing h with
  | nil => rfl
  | cons m messages ih =>
    refine (ih (H.deliver who m h)).trans ?_
    rw [c.deliver]
    rfl

/-- What a task does in the world. -/
def ofTask (task : Task H.Action) (call : Call H) (values : List (Value H.Who)) (h : H.State) :
    List Change :=
  match task with
  | .help task => told (H.name call.who) (task.answer call values h)
  | .teleport task => task.changes call values h
  | .host a => c.changes a call values h

theorem world_perform (task : Task H.Action) (call : Call H) (values : List (Value H.Who))
    (h : H.State) : seat.world (task.perform d.program call values h).state =
      (seat.world h).changed (c.ofTask task call values h) := by
  cases task with
  | help task =>
    rw [Task.perform, HelpTask.perform_eq]
    exact c.world_deliverAll call.who (task.answer call values h) h
  | host a => exact c.action a call values h
  | teleport task =>
    rw [Task.perform, TeleportTask.perform, ofTask, TeleportTask.changes]
    cases hmove : task.move? h call.who values with
    | none => exact c.world_deliverAll call.who [] h
    | some move =>
      simp only
      cases hmoved : H.move? move.who move.target move.orientation h with
      | none => exact c.world_deliverAll call.who _ h
      | some moved =>
        refine (c.world_deliverAll call.who _ moved).trans ?_
        rw [c.move hmoved]
        rfl

/-- What the handler does in the world that is entered, if one is, from the state in which it
begins. -/
def ofEntry (who : H.Who) (entry : Option (Entry H)) (begun : H.State) : List Change :=
  match entry with
  | none => []
  | some e =>
    c.ofTask e.handler.task ⟨who, d.registry, d.sigil, e.node⟩ e.values begun

/-- What a dispatch does in the world: what its handler does, and then telling the player of the
outcome. -/
def doings (who : H.Who) (x : Dispatched H) (begun : H.State) : List Change :=
  c.ofEntry who x.entry begun ++ told (H.name who) (Dispatcher.notices x.outcome)

/-- **What a dispatch does in the world** is what the handler does that it enters, and telling the
player of the outcome.  Only questions come before the handler, which decides the outcome. -/
theorem world_dispatch (who : H.Who) (text : String) (s : Session H) :
    ∃ begun, d.Queried who s.host begun ∧
      seat.world (d.dispatch who text s).session.host =
        (seat.world s.host).changed (c.doings who (d.dispatch who text s) begun) ∧
      ∀ e, (d.dispatch who text s).entry = some e → (d.dispatch who text s).outcome =
        if (H.isValid who (d.carryOut who e begun).state).1 then
          Dispatcher.conclude (d.registry.describe e.node) (d.carryOut who e begun).ending
        else .senderGone := by
  cases hentry : (d.dispatch who text s).entry with
  | none =>
    -- Without a handler only questions come before the message of a failure.
    obtain ⟨h, hworks, hhost⟩ := d.dispatch_works who text s
    rw [hentry] at hworks
    refine ⟨s.host, .refl, ?_, nofun⟩
    rw [hhost, c.world_deliverAll, c.world_queried hworks, doings, hentry, ofEntry,
      List.nil_append]
  | some e =>
    obtain ⟨begun, hbegun, houtcome, hhost⟩ := Dispatcher.dispatch_entered hentry
    refine ⟨begun, hbegun, ?_, fun _ he => Option.some.inj he ▸ houtcome⟩
    -- Afterwards it is asked once more whether the player is there, which is a question too.
    rw [hhost, c.world_deliverAll, c.isValid, Dispatcher.carryOut, c.world_perform,
      c.world_queried hbegun, doings, hentry, World.changed_append, ofEntry]

end Seat.Conduct

/-- In a world as the surroundings nothing else happens, if the types of words leave it alone. -/
def World.conduct {d : Dispatcher World.host}
    (haccept : ∀ {id : NodeId} {node : Node World.host} {type : CustomType World.host},
      d.registry.node? id = some node → node.argument.type = .custom type →
      ∀ commands word w, (type.accept commands word w).2 = w) : World.seat.Conduct d where
  changes a := nomatch a
  action a := nomatch a
  name_who _ := rfl
  deliver _ _ _ := rfl
  move h := (Option.some.inj h).symm
  find _ _ := rfl
  isValid _ _ := rfl
  accept := haccept
  setWorld _ _ := rfl

end CommandTree
