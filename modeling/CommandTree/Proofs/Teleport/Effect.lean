import CommandTree.Proofs.Dispatch.Deepest
import CommandTree.Proofs.Registry.Names
import CommandTree.Proofs.Teleport.Grammar
import CommandTree.Proofs.World
import CommandTree.Launch

/-!
# What the teleport command does

Words of the teleport command are converted to values, and these stand for the move that
the words mean.  An operator who gives the command with such words is moved, whatever
words come after them; other words are refused, and nobody is moved.

## Main results

* `Sends.exists_values` — the values of the words, and the move they stand for.
* `Dispatcher.dispatch_sends`, `Dispatcher.dispatch_astray` — what becomes of a message.
* `Dispatcher.dispatch_teleport` — **which words move a player**, in every registry that the
  command was added to and that left it alone since.
-/

namespace CommandTree

open Registry

/-! ### The values of the words -/

section Values

variable {w : World} {who : String} {id : NodeId} {word : String} {path : List NodeId}
  {words : List String}

theorem readings_teleportTree (hid : id < 17) :
    (teleportTree.readings who (id :: path) (word :: words) w).1 =
      (teleportNodes[id]?.elim [] fun node => if node.argument.valueKind?.isSome then
        [node.reads [] who (word :: words) w] else []) ++
        (teleportTree.readings who path words w).1 := by
  rw [← node?_teleportTree hid]
  have hlt : id < teleportTree.size :=
    survey_teleportTree.1.symm ▸ Nat.lt_trans hid (by decide)
  obtain ⟨node, hnode⟩ := exists_node?_of_lt hlt
  have hstate := still_teleportTree.eq_of_asked (stateAfter_asked hnode word w)
  have hreads : node.reads teleportTree.commandNames who (word :: words) w =
      node.reads [] who (word :: words) w := by
    rw [Node.reads, Node.reads, selfContained_teleportTree hnode _ []]
  rw [readings_cons hnode, hstate, valueKind?_eq hnode, hnode, hreads]
  rfl

theorem readings_player (hid : id ∈ [1, 10]) (hword : w.isOnline word = true) :
    (teleportTree.readings who (id :: path) (word :: words) w).1 =
      some (.player word) :: (teleportTree.readings who path words w).1 := by
  have hreads : (teleportTree.readings who (id :: path) (word :: words) w).1 =
      (if w.isOnline word then some word else none).map Value.player ::
        (teleportTree.readings who path words w).1 := by
    fin_cases hid <;> exact readings_teleportTree (by decide)
  rw [hreads, if_pos hword, Option.map_some]

theorem readings_axis (hid : id ∈ [2, 12]) :
    (teleportTree.readings who (id :: path) (word :: words) w).1 =
      some (.location (locationOf (H := World.host) who (word :: words) w)) ::
        (teleportTree.readings who path words w).1 := by
  fin_cases hid <;> exact readings_teleportTree (by decide)

theorem readings_silent (hid : id ∈ [3, 4, 9, 13, 14]) :
    (teleportTree.readings who (id :: path) (word :: words) w).1 =
      (teleportTree.readings who path words w).1 := by
  fin_cases hid <;> exact readings_teleportTree (by decide)

theorem readings_integer {n : Int} (hid : id ∈ [6, 7])
    (hword : Decimal.readInt? word.toList = some n) :
    (teleportTree.readings who (id :: path) (word :: words) w).1 =
      some (.integer n) :: (teleportTree.readings who path words w).1 := by
  have hreads : (teleportTree.readings who (id :: path) (word :: words) w).1 =
      ((Decimal.readInt? word.toList).filter (Argument.inBounds none)).map Value.integer ::
        (teleportTree.readings who path words w).1 := by
    fin_cases hid <;> exact readings_teleportTree (by decide)
  rw [hreads, hword]
  rfl

/-- A way ends with whether to look out for blocks. -/
theorem readings_switch (hid : id ∈ [5, 8, 11, 15]) (hword : IsSwitch word) :
    (teleportTree.readings who [id] (word :: words) w).1 =
      [some (.boolean (word == "true"))] := by
  have hreads : (teleportTree.readings who [id] (word :: words) w).1 =
      (if word = "true" then some (Value.boolean (W := String) true)
        else if word = "false" then some (.boolean false) else none) ::
        (teleportTree.readings who [] words w).1 := by
    fin_cases hid <;> exact readings_teleportTree (by decide)
  have hnone : (teleportTree.readings who [] words w).1 = [] := by cases words <;> rfl
  rw [hreads, hnone]
  rcases hword with rfl | rfl <;> rfl

theorem Places.locationOf_eq {x y z : String} {p : Point} (h : Places w who x y z p) :
    locationOf (H := World.host) who (x :: y :: z :: words) w = p := by
  obtain ⟨cx, cy, cz, hx, hy, hz, rfl⟩ := places_iff.mp h
  simp [locationOf, coordinateOr, hx, hy, hz]

/-- The values of the words after a place. -/
theorem Looks.exists_values {gaze : Gaze} {tail : List String} {o : Orientation}
    (h : Looks w who gaze tail o) : ∃ values : List (Value String),
      (∀ rest, (teleportTree.readings who gaze.way (tail ++ rest) w).1 = values.map some) ∧
        firstMismatch? (H := World.host) (gaze.params ++ [.boolean]) values = none ∧
        values.length = gaze.params.length + 1 ∧
        gaze.orientation? (H := World.host) w values = some o := by
  cases h with
  | @keep blocks hblocks =>
    exact ⟨[.boolean (blocks == "true")], fun rest => readings_switch (by decide) hblocks,
      rfl, rfl, rfl⟩
  | @rotate yaw pitch blocks i j hyaw hpitch hblocks =>
    refine ⟨[.integer i, .integer j, .boolean (blocks == "true")], fun rest => ?_, rfl, rfl, rfl⟩
    exact (readings_integer (by decide) hyaw).trans <| congrArg _ <|
      (readings_integer (by decide) hpitch).trans <| congrArg _ <|
      readings_switch (by decide) hblocks
  | @atPlayer other blocks hother hblocks =>
    refine ⟨[.player other, .boolean (blocks == "true")], fun rest => ?_, rfl, rfl, rfl⟩
    exact (readings_silent (by decide)).trans <|
      (readings_player (by decide) hother).trans <| congrArg _ <|
      readings_switch (by decide) hblocks
  | @atPlace x y z blocks p _ hplace hblocks =>
    refine ⟨[.location p, .boolean (blocks == "true")], fun rest => ?_, rfl, rfl, rfl⟩
    rw [← hplace.locationOf_eq]
    exact (readings_silent (by decide)).trans <|
      (readings_axis (by decide)).trans <| congrArg _ <|
      (readings_silent (by decide)).trans <| (readings_silent (by decide)).trans <|
      readings_switch (by decide) hblocks

/-- **The values of the words**, and the move they stand for.  Words after them do not matter. -/
theorem Sends.exists_values {task : TeleportTask} {form : List String} {p : Point}
    {o : Orientation} (h : Sends w who task form p o) : ∃ values : List (Value String),
      (∀ rest, (teleportTree.readings who task.way (form ++ rest) w).1 = values.map some) ∧
        firstMismatch? (H := World.host) task.params values = none ∧
        values.length = task.params.length ∧
        task.move? (H := World.host) w who values = some ⟨who, p, o⟩ := by
  cases h with
  | @toPlayer name hname =>
    refine ⟨[.player name], fun rest => ?_, rfl, rfl, rfl⟩
    have hnone : (teleportTree.readings who [] rest w).1 = [] := by cases rest <;> rfl
    exact (readings_player (by decide) hname).trans (congrArg _ hnone)
  | @toPlace x y z p gaze tail o hx hplace hlooks =>
    obtain ⟨values, hreadings, hmatch, hlength, horientation⟩ := hlooks.exists_values
    refine ⟨.location p :: values, fun rest => ?_, hmatch, ?_, ?_⟩
    · rw [← hplace.locationOf_eq]
      exact (readings_axis (by decide)).trans <| congrArg _ <|
        (readings_silent (by decide)).trans <| (readings_silent (by decide)).trans (hreadings rest)
    · simp [TeleportTask.params, Subject.params, hlength]
    · simp [TeleportTask.move?, Subject.take?, horientation]

/-- The handler at the end of the way is that of the task. -/
theorem Sends.deepestHandler?_eq {task : TeleportTask} {form : List String} {p : Point}
    {o : Orientation} (h : Sends w who task form p o) :
    teleportTree.deepestHandler? 0 task.way =
      some (task.way.getLastD 0, task.handler, task.way) := by
  have hhandler : teleportTree.handler? (task.way.getLastD 0) = some task.handler := by
    cases h with
    | toPlayer _ => rw [handler?, node?_teleportTree (by decide)]; rfl
    | toPlace _ _ hlooks =>
      cases hlooks <;> rw [handler?, node?_teleportTree (by decide)] <;> rfl
  exact deepestHandler?_eq_some_iff.mpr ⟨hhandler, rfl, [], by simp, by simp⟩

end Values

/-! ### Poses -/

namespace World

variable {w : World} {name : String}

/-- A player who is told something stays where they are. -/
theorem pose?_deliverAll (who : String) (messages : List Message) (w : World) (name : String) :
    (World.host.deliverAll who messages w).pose? name = w.pose? name := by
  induction messages generalizing w with
  | nil => rfl
  | cons m messages ih => exact (ih (w.send who m)).trans (map_get?_modify (fun _ => by rfl) ..)

theorem poseOf_of_pose? {pose : Pose} (h : w.pose? name = some pose) : w.poseOf name = pose := by
  rw [poseOf, show (w.get? name).map Player.pose = some pose from h, Option.getD_some]

/-- An operator is online. -/
theorem pose?_eq_of_isOp (h : World.host.isOp w name = true) :
    w.pose? name = some (w.poseOf name) := by
  cases hplayer : w.get? name with
  | none => simp [hplayer] at h
  | some player => simp [pose?, poseOf, hplayer]

theorem pose?_teleport (h : World.host.isOp w name = true) (p : Point) (o : Orientation) :
    (w.teleport name p o).pose? name = some ((w.poseOf name).moved p o) := by
  have hpose := pose?_eq_of_isOp h
  rw [pose?, Option.map_eq_some_iff] at hpose
  obtain ⟨player, hplayer, hpose⟩ := hpose
  rw [pose?, teleport, get?_modify_self, hplayer, ← hpose]
  rfl

end World

/-! ### Messages -/

namespace Dispatcher

variable {d : Dispatcher World.host} {who text name : String} {args : List String}
  {s : Session World.host} {f : NodeId → NodeId}

section Message

variable (h : teleportTree.Within f d.registry) (hr : d.registry.Reachable)
  (hop : World.host.isOp s.host who = true)

include h hr hop

/-- Operators may use the command. -/
theorem select_teleport (hname : name ∈ (teleportData (H := World.host)).names) :
    d.select who name s = (.ok (f 0), s) := by
  have hroot := h.node (show teleportTree.node? 0 = some _ from node?_teleportTree (by decide))
  have hfound : d.registry.findRoot? name = some (f 0) := by
    refine hr.apart.findRoot?_eq_some_iff.mpr ⟨mem_roots.mpr ⟨_, hroot, rfl⟩, ?_⟩
    rw [namesOf_eq hroot]
    exact hname
  have hpermits : (teleportData (H := World.host)).permits s.host who = true := hop
  rw [select, hfound]
  simp only [hroot]
  exact if_pos hpermits

/-- **Words for a task move the player**, with the same result whatever comes after them. -/
theorem dispatch_sends {task : TeleportTask} {form : List String} {p : Point} {o : Orientation}
    (hsends : Sends s.host who task form p o) :
    ∃ entry : Entry World.host, ∀ text name rest, d.words? text = some (name, form ++ rest) →
      name ∈ (teleportData (H := World.host)).names →
      d.dispatch who text s = tell who (d.closing who (f 0) entry.node (some entry)
        ⟨.done, 0, World.host.deliverAll who
          [.text ("Teleported " ++ who ++ " to " ++ p.text)] (s.host.teleport who p o)⟩ s) := by
  obtain ⟨values, hreadings, hmatch, hlength, hmove⟩ := hsends.exists_values
  refine ⟨⟨f (task.way.getLastD 0), task.handler, values⟩, fun text name rest hw hname => ?_⟩
  have hroot : teleportTree.node? 0 = some _ := node?_teleportTree (by decide)
  have hwalk : d.registry.walk who (f 0) (form ++ rest) s.host =
      (.ok (task.way.map f), s.host) := by
    rw [h.walk_eq selfContained_teleportTree _ hroot, hsends.walk_eq hop rest]
    rfl
  have hextract : d.registry.extract who (task.way.map f) (form ++ rest) s.host =
      (values, s.host) := by
    have hstate : (teleportTree.readings who task.way (form ++ rest) s.host).2 = s.host :=
      still_teleportTree.eq_of_asked (readings_asked task.way (form ++ rest) s.host)
    rw [extract, h.readings_eq selfContained_teleportTree _ _ fun _ => TeleportTask.exists_node?]
    refine Prod.ext ?_ hstate
    simp [hreadings rest, List.filterMap_map]
  have hdeepest : d.registry.deepestHandler? (f 0) (task.way.map f) =
      some (f (task.way.getLastD 0), task.handler, task.way.map f) := by
    rw [h.deepestHandler?_eq hroot fun _ => TeleportTask.exists_node?, hsends.deepestHandler?_eq]
    rfl
  have ha : d.Approaches who text s ⟨name, form ++ rest, f 0, s, task.way.map f, s.host, s.host,
      f (task.way.getLastD 0), task.handler, task.way.map f⟩ :=
    ⟨hw, select_teleport h hr hop hname, hwalk, rfl, hdeepest⟩
  have htake : values.take task.params.length = values := List.take_of_length_le hlength.le
  rw [ha.dispatch_eq, Dispatcher.values, calling]
  simp only [hextract]
  rw [call_eq_entered rfl hmatch]
  simp only [TeleportTask.handler, htake, Task.perform, TeleportTask.perform, hmove]
  rfl

/-- A message with words for a task: it is carried out, and only the player is somewhere else. -/
theorem pose_sends {task : TeleportTask} {form rest : List String} {p : Point} {o : Orientation}
    (hsends : Sends s.host who task form p o) (hw : d.words? text = some (name, form ++ rest))
    (hname : name ∈ (teleportData (H := World.host)).names) :
    (d.dispatch who text s).outcome = .executed ∧
      (d.dispatch who text s).session.host.pose? who = some ((s.host.poseOf who).moved p o) ∧
      ∀ other, other ≠ who →
        (d.dispatch who text s).session.host.pose? other = s.host.pose? other := by
  obtain ⟨entry, hx⟩ := dispatch_sends h hr hop hsends
  have houtcome : (d.dispatch who text s).outcome = .executed := by
    rw [hx text name rest hw hname, tell_outcome, closing_outcome]
    rfl
  have hpose : ∀ other, (d.dispatch who text s).session.host.pose? other =
      (s.host.teleport who p o).pose? other := by
    intro other
    rw [hx text name rest hw hname, tell_host, World.pose?_deliverAll, closing_host]
    exact World.pose?_deliverAll who _ _ other
  refine ⟨houtcome, (hpose who).trans (World.pose?_teleport hop p o), fun other hother => ?_⟩
  rw [hpose, World.pose?, World.teleport, World.get?_modify_of_ne hother, World.pose?]

/-- **Other words are refused**, and nothing else happens. -/
theorem dispatch_astray (hw : d.words? text = some (name, args))
    (hname : name ∈ (teleportData (H := World.host)).names)
    (hastray : ∀ task form p o, form <+: args → ¬Sends s.host who task form p o) :
    ∃ e, d.dispatch who text s = tell who ⟨.failed (.malformed e), none, s⟩ := by
  obtain ⟨id, rest, hstuck⟩ := walk_eq_stuck hop hastray
  have hroot : teleportTree.node? 0 = some _ := node?_teleportTree (by decide)
  have hwalk : d.registry.walk who (f 0) args s.host = (.error (.stuck (f id) rest), s.host) := by
    rw [h.walk_eq selfContained_teleportTree _ hroot, hstuck]
    rfl
  refine ⟨d.registry.syntaxError d.sigil (f 0) args (f id) rest, ?_⟩
  simp only [dispatch, hw, attempt, select_teleport h hr hop hname, Dispatcher.resolve,
    Registry.resolve, hwalk]
  rfl

/-- A message with other words: it is found to have a mistake in it, and nobody is moved. -/
theorem pose_astray (hw : d.words? text = some (name, args))
    (hname : name ∈ (teleportData (H := World.host)).names)
    (hastray : ∀ task form p o, form <+: args → ¬Sends s.host who task form p o) :
    (∃ e, (d.dispatch who text s).outcome = .failed (.malformed e)) ∧
      ∀ other, (d.dispatch who text s).session.host.pose? other = s.host.pose? other := by
  obtain ⟨e, hx⟩ := dispatch_astray h hr hop hw hname hastray
  refine ⟨⟨e, by rw [hx, tell_outcome]⟩, fun other => ?_⟩
  rw [hx, tell_host]
  exact World.pose?_deliverAll who _ s.host other

end Message

/-! ### Registries with the command -/

/-- The command stands in a registry that it was added to, as long as no other step builds on its
nodes. -/
theorem within_teleport {r : Registry World.host} (hr : r.Reachable) {root : NodeId}
    (hok : (r.apply .teleport).result = .ok root) {later : List (BuildStep World.host)}
    (halone : leavesAlone r.size (r.apply .teleport).registry.size (r.apply .teleport).registry
      later = true) :
    teleportTree.Within (r.size + ·) ((r.apply .teleport).registry.after later) := by
  have hempty : ((empty : Registry World.host).apply .teleport).result = .ok 0 := by decide +kernel
  have hwithin : teleportTree.Within (r.size + ·) (r.apply .teleport).registry :=
    within_apply hr.wellFormed (show BuildStep.teleport.root? = some _ from rfl) hempty hok
  refine hwithin.after ?_ halone
  have hlast : 32 < teleportTree.size := by
    rw [survey_teleportTree.1]
    decide
  rw [survey_teleportTree.1]
  exact hwithin.lt hlast

/-- **The teleport command takes just the words of its language.**  In every registry that the
command was added to, and no other step built on its nodes, an operator who gives the command is
moved if the words begin with some that stand for a task, to the place that these mean, whatever
comes after them, and nobody else is.  With other words the message is refused as one with a mistake
in it, and nobody is moved. -/
theorem dispatch_teleport {r : Registry World.host} (hr : r.Reachable) {root : NodeId}
    (hok : (r.apply .teleport).result = .ok root) {later : List (BuildStep World.host)}
    (halone : leavesAlone r.size (r.apply .teleport).registry.size (r.apply .teleport).registry
      later = true)
    (hd : d.registry = (r.apply .teleport).registry.after later)
    (hop : World.host.isOp s.host who = true) (hw : d.words? text = some (name, args))
    (hname : name ∈ (teleportData (H := World.host)).names) :
    let x := d.dispatch who text s
    (x.outcome = .executed ↔ ∃ task form p o, form <+: args ∧ Sends s.host who task form p o) ∧
    (x.outcome ≠ .executed → (∃ e, x.outcome = .failed (.malformed e)) ∧
      ∀ other, x.session.host.pose? other = s.host.pose? other) ∧
    ∀ task form p o, form <+: args → Sends s.host who task form p o →
      (x.session.host.poseOf who).location = p ∧
      x.session.host.pose? who = some ((s.host.poseOf who).moved p o) ∧
      (∀ other, other ≠ who → x.session.host.pose? other = s.host.pose? other) ∧
      ∀ text' name' args', d.words? text' = some (name', args') →
        name' ∈ (teleportData (H := World.host)).names → form <+: args' →
        d.dispatch who text' s = x := by
  intro x
  have hwithin : teleportTree.Within (r.size + ·) d.registry := hd ▸ within_teleport hr hok halone
  have hreach : d.registry.Reachable := hd ▸ hr.after (.teleport :: later)
  have hastray := pose_astray hwithin hreach hop hw hname
  have hsent : ∀ task form p o, form <+: args → Sends s.host who task form p o →
      x.outcome = .executed := by
    rintro task form p o ⟨rest, rfl⟩ hsends
    exact (pose_sends hwithin hreach hop hsends hw hname).1
  refine ⟨⟨fun hdone => ?_, ?_⟩, fun hfailed => hastray fun task form p o hform hsends => ?_, ?_⟩
  · by_contra hnone
    obtain ⟨⟨e, he⟩, -⟩ := hastray fun task form p o hform hsends =>
      hnone ⟨task, form, p, o, hform, hsends⟩
    rw [show (d.dispatch who text s).outcome = _ from hdone] at he
    cases he
  · rintro ⟨task, form, p, o, hform, hsends⟩
    exact hsent task form p o hform hsends
  · exact hfailed (hsent task form p o hform hsends)
  · rintro task form p o ⟨rest, rfl⟩ hsends
    obtain ⟨-, hpose, hothers⟩ := pose_sends hwithin hreach hop hsends hw hname
    refine ⟨congrArg Pose.location (World.poseOf_of_pose? hpose), hpose, hothers, ?_⟩
    rintro text' name' _ hw' hname' ⟨rest', rfl⟩
    obtain ⟨entry, hx⟩ := dispatch_sends hwithin hreach hop hsends
    exact (hx text' name' rest' hw' hname').trans (hx text name rest hw hname).symm

/-- Steve is an operator, and Alex is online too.  Both are where players appear, at a height of 64
in the middle of the world, and look to the south. -/
def steveWorld : World := (World.empty.join "Steve" true).join "Alex" false

/-- One step to the east of where Steve stands, at a height of its own, and as far to the south as
he looks. -/
theorem places_steve : Places steveWorld "Steve" "~1" "2.5" "^" ⟨1, 2.5, 1⟩ where
  east :=
    have hx : (steveWorld.poseOf "Steve").location.x + 1 = 1 := by decide +kernel
    hx.subst (motive := Coordinate.StandsFor _ _ "~1") (.relative rfl (by decide +kernel))
  up := .absolute (by decide +kernel)
  south :=
    have hz : (steveWorld.poseOf "Steve").view.z + 0 = 1 := by decide +kernel
    hz.subst (motive := Coordinate.StandsFor _ _ "^") (.view rfl (by decide +kernel))

/-- Bob is not online, and `Bob` is no coordinate either. -/
theorem not_sends_steve :
    ¬∃ task form p o, form <+: ["Bob"] ∧ Sends steveWorld "Steve" task form p o := by
  rintro ⟨task, form, p, o, hform, hsends⟩
  cases hsends with
  | @toPlayer name hname =>
    obtain rfl : name = "Bob" := by simpa using hform
    exact absurd hname (by decide +kernel)
  | toPlace _ _ _ => simp at hform

/-- Steve goes to Alex, whatever else he says, and Alex stays.  He goes to a place as well, and to
Bob he does not. -/
theorem dispatch_teleport_steve :
    let s := Session.start (H := World.host) steveWorld
    let d : Dispatcher World.host :=
      ⟨ofSteps [.help, .teleport, .command (.plain "stop" "")], "-", noActions, fun _ _ => none⟩
    let x := d.dispatch "Steve" "-tp Alex Steve true" s
    World.host.isOp s.host "Steve" = true ∧ x.outcome = .executed ∧
      (x.session.host.poseOf "Steve").location = (s.host.poseOf "Alex").location ∧
      x.session.host.pose? "Alex" = s.host.pose? "Alex" ∧
      d.dispatch "Steve" "-teleport Alex" s = x ∧
      ((d.dispatch "Steve" "-tp ~1 2.5 ^ true" s).session.host.poseOf "Steve").location =
        ⟨1, 2.5, 1⟩ ∧
      (d.dispatch "Steve" "-tp Bob" s).session.host.pose? "Steve" = s.host.pose? "Steve" := by
  intro s d x
  have hop : World.host.isOp s.host "Steve" = true := by decide +kernel
  have hok : ((ofSteps [.help] : Registry World.host).apply .teleport).result = .ok 3 := by
    decide +kernel
  have halone : leavesAlone (ofSteps [.help] : Registry World.host).size
      ((ofSteps [.help] : Registry World.host).apply .teleport).registry.size
      ((ofSteps [.help] : Registry World.host).apply .teleport).registry
      [.command (.plain "stop" "")] = true := by
    decide +kernel
  -- To Alex.
  have halex : d.words? "-tp Alex Steve true" = some ("tp", ["Alex", "Steve", "true"]) := by
    decide +kernel
  have hshort : d.words? "-teleport Alex" = some ("teleport", ["Alex"]) := by decide +kernel
  have hsends : Sends s.host "Steve" (.toPlayer .sender) ["Alex"]
      (s.host.poseOf "Alex").location .keep :=
    .toPlayer (by decide +kernel)
  obtain ⟨hdone, -, hmoved⟩ := dispatch_teleport ⟨_, rfl⟩ hok halone rfl hop halex (by decide)
  obtain ⟨hplace, -, hothers, hsame⟩ := hmoved _ _ _ _ ⟨["Steve", "true"], rfl⟩ hsends
  -- To a place.
  have haway : d.words? "-tp ~1 2.5 ^ true" = some ("tp", ["~1", "2.5", "^", "true"]) := by
    decide +kernel
  have hgoes : Sends s.host "Steve" (.toPlace .sender .keep) ["~1", "2.5", "^", "true"]
      ⟨1, 2.5, 1⟩ .keep :=
    .toPlace (by decide +kernel) places_steve (.keep (by decide))
  obtain ⟨-, -, hgone⟩ := dispatch_teleport ⟨_, rfl⟩ hok halone rfl hop haway (by decide)
  obtain ⟨hthere, -⟩ := hgone _ _ _ _ (List.prefix_refl _) hgoes
  -- To nobody.
  have hbob : d.words? "-tp Bob" = some ("tp", ["Bob"]) := by decide +kernel
  obtain ⟨hbobdone, hrefused, -⟩ :=
    dispatch_teleport ⟨_, rfl⟩ hok halone rfl hop hbob (by decide)
  refine ⟨hop, hdone.mpr ⟨_, _, _, _, ⟨["Steve", "true"], rfl⟩, hsends⟩, hplace,
    hothers "Alex" (by decide), hsame _ _ _ hshort (by decide) (List.prefix_refl _), hthere, ?_⟩
  exact (hrefused fun hdone => not_sends_steve (hbobdone.mp hdone)).2 "Steve"

end Dispatcher

end CommandTree
