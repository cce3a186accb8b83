import CommandTree.Launch
import CommandTree.Proofs.Dispatch.Values
import CommandTree.Proofs.Resolve.Shadow
import CommandTree.Proofs.Shell.Lines

/-!
# The shell with the built-in commands

Below the teleport command the player to be teleported can be named in two places, and
the first of them takes every word that the second one takes.  So the second is never
reached, and the handlers that are entered move nobody but the one who gave the command.
They come after the question whether this is an operator, and a handler that has moved
somebody has ended well.  So poses change in one way only.

## Main results

* `notMem_walk_victim` — no walk goes through the node of the player to be teleported.
* `pose_dispatch` — a dispatch moves the sender, if anybody.
* `Shell.pose_handleLine` — what a line of a run can do to poses.
* `Options.ready_openShell` — the shell of the program is ready for its first line.
-/

namespace CommandTree

open World (Change)

/-! ### The nodes of the commands -/

/-- Who is teleported by a task, if anyone. -/
def Task.subject? {A : Type} : Task A → Option Subject
  | .teleport task => some task.subject
  | _ => none

/-- The children of the teleport command: the first and the last are players. -/
theorem survey_children :
    (builtinCommands World.host).children 3 = [4, 5, 19] ∧
    ((builtinCommands World.host).node? 4).map (·.argument.type matches .player) = some true ∧
    ((builtinCommands World.host).node? 19).map (·.argument.type matches .player) = some true ∧
    ((builtinCommands World.host).node? 19).map Node.parent = some (some 3) := by
  decide +kernel

/-- All nodes, looked at one by one: node 2 alone has a type of the host, and node 19 alone is called
`victim`; what teleports is below node 3, and teleports another than its sender only below
node 19. -/
theorem survey_nodes :
    (builtinCommands World.host).size = 36 ∧
    ∀ id < 36,
      (∀ node ∈ (builtinCommands World.host).node? id,
        ((node.argument.type matches .custom _) = true → id = 2) ∧
          (node.argument.name = "victim" → id = 19)) ∧
      ∀ subject ∈ ((builtinCommands World.host).handler? id).bind (·.task.subject?),
        ((builtinCommands World.host).path id).head? = some 3 ∧
          (subject = .victim → 19 ∈ (builtinCommands World.host).path id) := by
  decide +kernel

set_option maxRecDepth 10000 in
/-- The type of node 2, and what is asked of those who use the command of node 3. -/
theorem survey_functions :
    (((builtinCommands World.host).node? 2).map Node.argument,
      ((builtinCommands World.host).node? 3).map Node.data) =
    (some ⟨"command", .custom (commandNameType World.host)⟩, some Registry.teleportData) := by
  with_unfolding_all rfl

theorem reachable_builtin (H : Host) : (builtinCommands H).Reachable := ⟨[.help, .teleport], rfl⟩

section Builtin

variable {d : Dispatcher World.host} (hd : d.registry = builtinCommands World.host)
  {id : NodeId} {node : Node World.host}

include hd

theorem lt_of_node? (hnode : d.registry.node? id = some node) : id < 36 := by
  rw [← survey_nodes.1, ← hd]
  exact (Array.getElem?_eq_some_iff.mp hnode).1

theorem node_builtin (hnode : d.registry.node? id = some node) :
    ((node.argument.type matches .custom _) = true → id = 2) ∧
      (node.argument.name = "victim" → id = 19) := by
  have hlt := lt_of_node? hd hnode
  rw [hd] at hnode
  exact (survey_nodes.2 id hlt).1 node hnode

theorem type_builtin {type : CustomType World.host} (hnode : d.registry.node? id = some node)
    (htype : node.argument.type = .custom type) : type = commandNameType World.host := by
  obtain rfl := (node_builtin hd hnode).1 (by rw [htype])
  have hargument := (Prod.mk.inj survey_functions).1
  rw [← hd, hnode, Option.map_some, Option.some.injEq] at hargument
  rw [hargument] at htype
  exact (ArgumentType.custom.inj htype).symm

/-- No type of words does anything to the world. -/
theorem accept_builtin {type : CustomType World.host} (hnode : d.registry.node? id = some node)
    (htype : node.argument.type = .custom type) (commands : List String) (word : String)
    (w : World) : (type.accept commands word w).2 = w := by
  rw [type_builtin hd hnode htype]
  rfl

theorem still_builtin : d.registry.Still := by
  intro id word w
  have hasked : d.Queried "" w (d.registry.accepts id word w).2 := .node id word .refl
  exact (World.conduct (accept_builtin hd)).world_queried hasked

/-! ### The player to be teleported -/

theorem shadows_victim (w : World) : d.registry.Shadows w 4 19 := by
  obtain ⟨hchildren, hfirst, hvictim, hparent⟩ := survey_children
  rw [← hd] at hchildren hfirst hvictim hparent
  obtain ⟨first, hfirst, htype⟩ := Option.map_eq_some_iff.mp hfirst
  obtain ⟨victim, hvictim, htype'⟩ := Option.map_eq_some_iff.mp hvictim
  have player : ∀ {node : Node World.host}, (node.argument.type matches .player) = true →
      node.argument.type = .player := by
    intro node h
    split at h
    · assumption
    · cases h
  have hliteral : first.argument.isLiteral = false := by rw [Argument.isLiteral, player htype]
  have hwell := (hd ▸ reachable_builtin World.host : d.registry.Reachable).wellFormed
  rw [hvictim, Option.map_some, Option.some.injEq] at hparent
  refine .of_type (fun id before after hsplit => ?_) hfirst hvictim
    ((player htype).trans (player htype').symm) hliteral w
  exact Registry.mem_before_of_first hwell hchildren hvictim hparent (by decide) hsplit

/-- **No walk goes through the node of the player to be teleported.** -/
theorem notMem_walk_victim {who : String} {root : NodeId} {words : List String} {w t : World}
    {path : List NodeId} (hwalk : d.registry.walk who root words w = (.ok path, t)) :
    19 ∉ path :=
  (shadows_victim hd w).notMem_walk (still_builtin hd) hwalk

variable {who text : String} {s : Session World.host}

/-- A handler that teleports is below node 3, and below node 19 if it does not teleport its
sender. -/
theorem teleport_below {handler : Handler World.host} {task : TeleportTask}
    (hhandler : d.registry.handler? id = some handler) (htask : handler.task = .teleport task) :
    (d.registry.path id).head? = some 3 ∧
      (task.subject = .victim → 19 ∈ d.registry.path id) := by
  obtain ⟨node, hnode, -⟩ := Option.bind_eq_some_iff.mp hhandler
  have hsubject : task.subject ∈
      ((builtinCommands World.host).handler? id).bind (·.task.subject?) := by
    rw [← hd, hhandler, Option.mem_def, Option.bind_some, htask]
    rfl
  rw [hd]
  exact (survey_nodes.2 id (lt_of_node? hd hnode)).2 task.subject hsubject

/-- Only operators may use the command of node 3. -/
theorem isOp_of_selected {name : String} (hselected : d.Selected who name s 3 node) :
    World.host.isOp s.host who = true := by
  have hdata := (Prod.mk.inj survey_functions).2
  have hpermit := hselected.permitted
  rw [← hd, hselected.stands, Option.map_some, Option.some.injEq] at hdata
  rw [hdata] at hpermit
  exact hpermit

/-- A teleport handler that is entered belongs to an operator's command, and teleports its sender. -/
theorem entry_teleport {e : Entry World.host} {task : TeleportTask}
    (he : (d.dispatch who text s).entry = some e) (htask : e.handler.task = .teleport task) :
    task.subject = .sender ∧ World.host.isOp s.host who = true := by
  obtain ⟨a, ha, -, -, rfl⟩ := Dispatcher.entry_eq_some he
  obtain ⟨hhandler, -, below, hsplit, -⟩ := Registry.deepestHandler?_eq_some ha.deepest
  obtain ⟨node, hselected⟩ := Dispatcher.select_eq_ok ha.selected
  obtain ⟨hhead, hvictim⟩ := teleport_below hd hhandler htask
  have hpath := ha.path_node (hd ▸ reachable_builtin World.host)
  rw [hpath, List.head?_cons, Option.some.injEq] at hhead
  rw [hhead] at hselected hpath
  refine ⟨?_, isOp_of_selected hd hselected⟩
  cases hsub : task.subject with
  | sender => rfl
  | victim =>
    have htaken : 19 ∈ a.taken := by simpa [hpath] using hvictim hsub
    have hmem : 19 ∈ a.path := hsplit ▸ List.mem_append_left below htaken
    exact absurd hmem (notMem_walk_victim hd ha.walked)

/-- **A dispatch moves the sender, if anybody**, and only if they are an operator and the outcome is
that the command was executed. -/
theorem pose_dispatch {name : String}
    (hpose : (d.dispatch who text s).session.host.pose? name ≠ s.host.pose? name) :
    name = who ∧ World.host.isOp s.host who = true ∧
      (d.dispatch who text s).outcome = .executed := by
  let c := World.conduct (accept_builtin hd)
  obtain ⟨begun, -, hworld, houtcome⟩ := c.world_dispatch who text s
  have hmoved : ∃ target o,
      Change.move name target o ∈ c.doings who (d.dispatch who text s) begun := by
    by_contra hnone
    push Not at hnone
    refine hpose ?_
    change (World.seat.world (d.dispatch who text s).session.host).pose? name = _
    rw [hworld]
    exact World.pose?_changed _ hnone
  obtain ⟨target, o, hmem⟩ := hmoved
  have hentered : Change.move name target o ∈ c.ofEntry who (d.dispatch who text s).entry begun := by
    rcases List.mem_append.mp hmem with h | h
    · exact h
    · exact absurd h move_notMem_told
  cases hentry : (d.dispatch who text s).entry with
  | none =>
    rw [hentry] at hentered
    exact absurd hentered List.not_mem_nil
  | some e =>
    rw [hentry, Seat.Conduct.ofEntry] at hentered
    -- Only a teleport handler moves anybody.
    cases htask : e.handler.task with
    | help task =>
      rw [htask] at hentered
      exact absurd hentered move_notMem_told
    | host a => exact a.elim
    | teleport task =>
      rw [htask] at hentered
      obtain ⟨hdone, move, hmove, hname⟩ := TeleportTask.of_move_mem hentered
      obtain ⟨hsender, hop⟩ := entry_teleport hd hentry htask
      refine ⟨?_, hop, ?_⟩
      · rw [← hname, TeleportTask.who_of_move? hsender hmove]
        rfl
      · have hend : (d.carryOut who e begun).ending = .done := by
          rw [Dispatcher.carryOut, htask]
          exact hdone
        rw [houtcome e hentry, hend]
        rfl

end Builtin

/-- A line moves the player who acts from then on, if anybody. -/
theorem pose_line {shell : Shell World.host} {content : Said} {result : LineResult World.host}
    (hd : shell.dispatcher.registry = builtinCommands World.host)
    (h : Shell.LineCourse World.seat shell content result) {name : String}
    (hpose : result.shell.session.host.pose? name ≠ shell.session.host.pose? name) :
    name = result.shell.acting ∧ World.host.isOp shell.session.host name = true ∧
      ∃ text x, result.dispatched = some (text, x) ∧
        x = shell.dispatcher.dispatch name text shell.session ∧ x.outcome = .executed := by
  rcases h.still_or_dispatched with ⟨-, hstill⟩ | ⟨text, x, hx, hdispatched, hsession⟩
  · rw [hstill] at hpose
    exact absurd rfl hpose
  · -- Reading the messages moves nobody, so it is the dispatch that does.
    have hread : result.shell.session.host.pose? name = x.session.host.pose? name := by
      rw [hsession]
      exact World.pose?_drain x.session.host name
    rw [hread, hx] at hpose
    obtain ⟨hname, hop, hexecuted⟩ := pose_dispatch hd hpose
    obtain rfl : name = result.shell.acting := hname
    exact ⟨rfl, hop, text, x, hdispatched, hx, hx ▸ hexecuted⟩

/-- **What a line of a run does to poses.**  Where a player is and where they look changes only if
the line is dispatched as theirs, they are an operator, and it is executed; any other line leaves
everyone as they were.  What is entered teleports nobody but its sender, and the path that words
choose never goes through the node of another player to be teleported. -/
theorem Shell.pose_handleLine {shell : Shell World.host}
    (hd : shell.dispatcher.registry = builtinCommands World.host) (before : List String)
    (line : String) :
    let now := shell.after World.seat before
    let result := now.handleLine World.seat line
    (∀ name, result.shell.session.host.pose? name ≠ now.session.host.pose? name →
      name = result.shell.acting ∧ World.host.isOp now.session.host name = true ∧
        ∃ text x, result.dispatched = some (text, x) ∧
          x = now.dispatcher.dispatch name text now.session ∧ x.outcome = .executed) ∧
    ((∀ text x, result.dispatched = some (text, x) → x.outcome ≠ .executed) →
      ∀ name, result.shell.session.host.pose? name = now.session.host.pose? name) ∧
    (∀ text x e task, result.dispatched = some (text, x) → x.entry = some e →
      e.handler.task = .teleport task → task.subject = .sender) ∧
    ∀ who root args w path t, now.dispatcher.resolve who root args w = (.ok path, t) →
      ∀ id ∈ path, ∀ node, now.dispatcher.registry.node? id = some node →
        node.argument.name ≠ "victim" := by
  intro now result
  have hnow : now.dispatcher.registry = builtinCommands World.host := by
    rw [← hd]
    exact congrArg Dispatcher.registry (dispatcher_after World.seat shell before)
  have hcourse : LineCourse World.seat now (said line) result :=
    handleLine_course World.seat now line
  clear_value result now
  refine ⟨fun name => pose_line hnow hcourse, fun hother name => ?_,
    fun text x e task hx he htask => ?_, ?_⟩
  · by_contra hpose
    obtain ⟨-, -, text, x, hx, -, hexecuted⟩ := pose_line hnow hcourse hpose
    exact hother text x hx hexecuted
  · rcases hcourse.still_or_dispatched with ⟨hnone, -⟩ | ⟨text', x', rfl, hdispatched, -⟩
    · rw [hnone] at hx
      cases hx
    · obtain ⟨-, rfl⟩ := Prod.mk.inj (Option.some.inj (hdispatched.symm.trans hx))
      exact (entry_teleport hnow he htask).1
  · intro who root args w path t hresolved id hid node hnode hname
    have hvictim := notMem_walk_victim hnow (Dispatcher.resolve_eq_ok.mp hresolved)
    obtain rfl := (node_builtin hnow hnode).2 hname
    exact hvictim hid

/-- Steve is an operator, and Alex is online too. -/
def steveShell : Shell World.host :=
  ⟨⟨builtinCommands World.host, "-", noActions, fun _ _ => none⟩, "Steve",
    .start ((World.empty.join "Steve" true).join "Alex" false)⟩

/-- When Steve names Alex as the player to be teleported to him, he goes to Alex himself, and Alex
stays. -/
theorem Shell.pose_handleLine_steve :
    let result := steveShell.handleLine World.seat "-tp Alex Steve true"
    steveShell.dispatcher.registry = builtinCommands World.host ∧
      result.dispatched.map (·.2.outcome) = some .executed ∧
      result.shell.session.host.pose? "Alex" = steveShell.session.host.pose? "Alex" := by
  intro result
  have hd : steveShell.dispatcher.registry = builtinCommands World.host := rfl
  obtain ⟨hmoved, -⟩ := Shell.pose_handleLine hd [] "-tp Alex Steve true"
  have hacting : result.shell.acting = "Steve" := by decide +kernel
  refine ⟨hd, by decide +kernel, ?_⟩
  by_contra hpose
  have hname : "Alex" = result.shell.acting := (hmoved "Alex" hpose).1
  rw [hacting] at hname
  exact absurd hname (by decide)

/-! ### The shell of the program -/

theorem Options.world_invariant (o : Options) : o.world.Ordered ∧ o.world.Quiet ∧
    o.world.isOnline o.player = true := by
  rw [Options.world]
  have hstart : (World.empty.join o.player o.isOp).Ordered ∧
      (World.empty.join o.player o.isOp).Quiet ∧
        (World.empty.join o.player o.isOp).isOnline o.player = true :=
    ⟨World.ordered_empty.join _ _, World.quiet_empty.join _ _, World.isOnline_join.mpr (.inl rfl)⟩
  generalize World.empty.join o.player o.isOp = w at hstart ⊢
  induction o.players.filter (· != o.player) generalizing w with
  | nil => exact hstart
  | cons name names ih =>
    obtain ⟨hordered, hquiet, honline⟩ := hstart
    exact ih _ ⟨hordered.join name false, hquiet.join name false,
      World.isOnline_join.mpr (.inr honline)⟩

/-- **The shell that the program opens** is ready for its first line, with nothing left to read. -/
theorem Options.ready_openShell {o : Options} {settings : Settings} {shell : Shell World.host}
    (h : o.openShell settings = .ok shell) :
    shell.Ready World.seat shell.dispatcher ∧ (shell.world World.seat).Quiet ∧
      shell.dispatcher.registry = builtinCommands World.host := by
  obtain ⟨hordered, hquiet, honline⟩ := o.world_invariant
  rw [Options.openShell] at h
  cases hcreate : Dispatcher.create (builtinCommands World.host) settings.sigil noActions with
  | error e =>
    rw [hcreate] at h
    cases h
  | ok dispatcher =>
    rw [hcreate] at h
    cases h
    refine ⟨⟨rfl, honline, hordered⟩, hquiet, ?_⟩
    simp only [Dispatcher.create] at hcreate
    split at hcreate
    · cases hcreate
    · split at hcreate
      · cases hcreate
      · cases hcreate
        rfl

end CommandTree
