import CommandTree.Proofs.Registry.Atomicity

/-!
# Steps in parts

The built-in commands are declared by many steps in a row, each of which goes on from a
node that one before it has ended on.  Since new nodes stand at the end of the registry,
these nodes are known beforehand, from the size of the registry alone.  So a built-in
command that is declared at all is a command followed by a list of single steps, and what
is to be said of it follows from what is said of these.  A location is three arguments in
the same way.

## Main definitions

* `BuildStep.base?`, `BuildStep.root?` — the node a step goes on from, or the command it begins.
* `BuildStep.branch` — the single steps below the command that a step begins.
* `Registry.MadeOf` — a step that comes to the same as a list of steps.

## Main results

* `location_madeOf` — a location as arguments.
* `apply_of_root?` — **a step that begins a command**, in parts.
* `le_base_of_mem_branch` — the parts build on new nodes only.
* `apply_node?` — a step leaves every node alone but the one it goes on from.
-/

namespace CommandTree

variable {H : Host}

/-! ### What a step builds on -/

namespace BuildStep

/-- The node that a step goes on from. -/
def base? : BuildStep H → Option NodeId
  | .argument parent _ | .literal parent _ | .location parent _ | .attach parent _ => some parent
  | .command _ | .help | .teleport => none

/-- The metadata of the command that a step begins. -/
def root? : BuildStep H → Option (CommandData H)
  | .command data => some data
  | .help => some Registry.helpData
  | .teleport => some Registry.teleportData
  | _ => none

theorem root?_eq_none_iff {step : BuildStep H} :
    step.root? = none ↔ ∃ base, step.base? = some base := by
  cases step <;> simp [root?, base?]

/-- The steps of the help command below its root, the node `n`. -/
def helpBranch (n : Nat) : List (BuildStep H) :=
  [.attach n HelpTask.firstPage.handler,
    .argument n ⟨"page", .integer none⟩, .attach (n + 1) HelpTask.page.handler,
    .argument n ⟨"command", .custom (commandNameType H)⟩, .attach (n + 2) HelpTask.usage.handler]

/-- The steps below a place to go to, the node `place`, in a registry of size `n`. -/
def gazeBranch (place n : Nat) (subject : Subject) : List (BuildStep H) :=
  [.argument place ⟨"checkForBlocks", .boolean⟩,
    .attach n (TeleportTask.toPlace subject .keep).handler,
    .argument place ⟨"yRot", .integer none⟩, .argument (n + 1) ⟨"xRot", .integer none⟩,
    .argument (n + 2) ⟨"checkForBlocks", .boolean⟩,
    .attach (n + 3) (TeleportTask.toPlace subject .rotate).handler,
    .literal place Registry.facingData,
    .argument (n + 4) ⟨"lookAtEntity", .player⟩,
    .argument (n + 5) ⟨"checkForBlocks", .boolean⟩,
    .attach (n + 6) (TeleportTask.toPlace subject .atPlayer).handler,
    .location (n + 4) "lookAtPosition",
    .argument (n + 9) ⟨"checkForBlocks", .boolean⟩,
    .attach (n + 10) (TeleportTask.toPlace subject .atPlace).handler]

/-- The steps of the teleport command below its root, the node `n`. -/
def teleportBranch (n : Nat) : List (BuildStep H) :=
  .argument n ⟨"destination", .player⟩ ::
    .attach (n + 1) (TeleportTask.toPlayer .sender).handler ::
    .location n "destination" ::
    (gazeBranch (n + 4) (n + 5) .sender ++
      .argument n ⟨"victim", .player⟩ ::
      .argument (n + 16) ⟨"destination", .player⟩ ::
      .argument (n + 17) ⟨"checkForBlocks", .boolean⟩ ::
      .attach (n + 18) (TeleportTask.toPlayer .victim).handler ::
      .location (n + 16) "destination" ::
      gazeBranch (n + 21) (n + 22) .victim)

/-- The steps below the command that a step begins, the node `n`. -/
def branch (n : Nat) : BuildStep H → List (BuildStep H)
  | .help => helpBranch n
  | .teleport => teleportBranch n
  | _ => []

/-- All parts of a built-in command go on from its nodes. -/
theorem le_base_of_mem_branch {n : Nat} {step part : BuildStep H} (h : part ∈ step.branch n) :
    ∃ base, part.base? = some base ∧ n ≤ base := by
  have hbelow : ∀ {parts : List (BuildStep H)},
      parts.all (fun part => part.base?.any (n ≤ ·)) = true → part ∈ parts →
        ∃ base, part.base? = some base ∧ n ≤ base := by
    intro parts hall hpart
    have hany := List.all_eq_true.mp hall part hpart
    simpa [Option.any_eq_true] using hany
  cases step with
  | help =>
    refine hbelow ?_ h
    simp [branch, helpBranch, base?]
  | teleport =>
    refine hbelow ?_ h
    simp [branch, teleportBranch, gazeBranch, base?]
    omega
  | _ => cases h

end BuildStep

namespace Registry

variable {r : Registry H} {b : Built H} {parts more : List (BuildStep H)}

/-! ### Steps in a row -/

/-- A step that ends well comes to the same as the given ones. -/
def MadeOf (r : Registry H) (b : Built H) (parts : List (BuildStep H)) : Prop :=
  ∀ id, b.result = .ok id → b.registry = r.after parts

theorem after_append (r : Registry H) (parts more : List (BuildStep H)) :
    r.after (parts ++ more) = (r.after parts).after more :=
  List.foldl_append

/-- A row of steps ends well just if both parts of it do. -/
theorem andThen_eq_ok {next : NodeId → Registry H → Built H} {id : NodeId}
    (h : (b.andThen next).result = .ok id) :
    ∃ j, b.result = .ok j ∧ b.andThen next = next j b.registry := by
  unfold Built.andThen at h ⊢
  cases hb : b.result with
  | error e =>
    rw [hb] at h
    cases h
  | ok j => exact ⟨j, rfl, rfl⟩

theorem MadeOf.andThen {next : NodeId → Registry H → Built H} (hb : r.MadeOf b parts)
    (hnext : ∀ id, b.result = .ok id → b.registry.MadeOf (next id b.registry) more) :
    r.MadeOf (b.andThen next) (parts ++ more) := by
  intro id hid
  obtain ⟨j, hj, hthen⟩ := andThen_eq_ok hid
  rw [hthen] at hid ⊢
  rw [hnext j hj id hid, hb j hj, after_append]

theorem command_result {data : CommandData H} {id : NodeId}
    (h : (r.command data).result = .ok id) : id = r.size ∧ r.taken? data.names = none := by
  unfold command at h
  split at h
  · cases h
  · next hfree =>
    cases h
    exact ⟨rfl, hfree⟩

theorem argument_result {parent id : NodeId} {a : Argument H}
    (h : (r.argument parent a).result = .ok id) : id = r.size := by
  unfold argument at h
  split at h
  · cases h
  · cases h
    rfl

theorem literal_result {parent id : NodeId} {data : CommandData H}
    (h : (r.literal parent data).result = .ok id) : id = r.size := by
  unfold literal at h
  split at h
  · cases h
  · cases h
    rfl

theorem attach_result {node id : NodeId} {handler : Handler H}
    (h : (r.attach node handler).result = .ok id) : id = node := by
  unfold attach at h
  split at h
  · cases h
  · split at h
    · cases h
      rfl
    · cases h

/-- An argument followed by other steps, the size of the registry being known. -/
theorem MadeOf.argument {n : Nat} (hn : r.size = n) (parent : NodeId) (a : Argument H)
    {next : NodeId → Registry H → Built H}
    (hnext : ∀ r' : Registry H, r'.size = n + 1 → r'.MadeOf (next n r') parts) :
    r.MadeOf ((r.argument parent a).andThen next) (.argument parent a :: parts) := by
  intro id hid
  obtain ⟨j, hj, hthen⟩ := andThen_eq_ok hid
  have hsize := size_eq_of_keeps (fun _ hP => argument_keeps hP r parent a) hj
  rw [hthen, argument_result hj, hn] at hid ⊢
  exact hnext _ (hn ▸ hsize) id hid

theorem MadeOf.literal {n : Nat} (hn : r.size = n) (parent : NodeId) (data : CommandData H)
    {next : NodeId → Registry H → Built H}
    (hnext : ∀ r' : Registry H, r'.size = n + 1 → r'.MadeOf (next n r') parts) :
    r.MadeOf ((r.literal parent data).andThen next) (.literal parent data :: parts) := by
  intro id hid
  obtain ⟨j, hj, hthen⟩ := andThen_eq_ok hid
  have hsize := size_eq_of_keeps (fun _ hP => literal_keeps hP r parent data) hj
  rw [hthen, literal_result hj, hn] at hid ⊢
  exact hnext _ (hn ▸ hsize) id hid

theorem MadeOf.attach {n : Nat} (hn : r.size = n) (node : NodeId) (handler : Handler H)
    {next : NodeId → Registry H → Built H}
    (hnext : ∀ r' : Registry H, r'.size = n → r'.MadeOf (next node r') parts) :
    r.MadeOf ((r.attach node handler).andThen next) (.attach node handler :: parts) := by
  intro id hid
  obtain ⟨j, hj, hthen⟩ := andThen_eq_ok hid
  have hsize := size_eq_of_keeps (fun _ hP => attach_keeps hP r node handler) hj
  rw [hthen, attach_result hj] at hid ⊢
  exact hnext _ (hn ▸ hsize) id hid

theorem MadeOf.single (step : BuildStep H) : r.MadeOf (r.apply step) [step] :=
  fun _ _ => rfl

theorem MadeOf.done (id : NodeId) : r.MadeOf ⟨.ok id, r⟩ [] :=
  fun _ _ => rfl

/-! ### Locations and the built-in commands -/

/-- The arguments that a location is made of, in a registry of size `n`. -/
def locationParts (parent n : Nat) (name : String) : List (BuildStep H) :=
  if isTrailingName name then [.argument parent ⟨name, .axis⟩]
  else
    [.argument parent ⟨name, .axis⟩, .argument n ⟨name ++ "_y*", .axis⟩,
      .argument (n + 1) ⟨name ++ "_z*", .axis⟩]

theorem location_madeOf (r : Registry H) (parent : NodeId) (name : String) :
    r.MadeOf (r.location parent name) (locationParts parent r.size name) := by
  unfold location locationParts
  split
  · exact .single (.argument parent ⟨name, .axis⟩)
  · refine .argument rfl parent _ fun r hn => ?_
    refine .argument hn _ _ fun r _ => ?_
    exact .single (.argument _ ⟨name ++ "_z*", .axis⟩)

/-- A location with a plain name ends on the third of its nodes. -/
theorem location_result {parent id : NodeId} {name : String} (hname : isTrailingName name = false)
    (h : (r.location parent name).result = .ok id) : id = r.size + 2 := by
  rw [location, if_neg (by simp [hname])] at h
  obtain ⟨x, hx, hthen⟩ := andThen_eq_ok h
  rw [hthen] at h
  obtain ⟨y, hy, hthen⟩ := andThen_eq_ok h
  rw [hthen] at h
  rw [argument_result h, size_eq_of_keeps (fun _ hP => argument_keeps hP _ _ _) hy,
    size_eq_of_keeps (fun _ hP => argument_keeps hP _ _ _) hx]
  rfl

theorem location_eq_after (hr : r.WellFormed) (parent : NodeId) (name : String) :
    (r.location parent name).registry = r.after (locationParts parent r.size name) := by
  by_cases hname : isTrailingName name = true
  · rw [location, locationParts, if_pos hname, if_pos hname]
    rfl
  · cases hnode : r.node? parent with
    | none =>
      -- None of the three arguments has a node to go on from.
      have hend : r.node? r.size = none := node?_eq_none_iff.mpr (Nat.le_refl _)
      have hafter : r.node? (r.size + 1) = none := node?_eq_none_iff.mpr (Nat.le_succ _)
      simp [location, locationParts, hname, Registry.argument, hnode, Built.andThen, after, apply,
        hend, hafter]
    | some node =>
      have hbears : r.Bears parent (r.schema parent) := ⟨hr, ⟨node, hnode⟩, rfl⟩
      obtain ⟨id, hid, -⟩ := location_yields hbears name (by simpa using hname)
      exact location_madeOf r parent name id hid

theorem length_locationOrigins {name : String} (hname : isTrailingName name = false) :
    (locationOrigins name).length = 3 := by
  rw [locationOrigins, if_neg (by simp [hname])]
  rfl

theorem MadeOf.location {n : Nat} (hn : r.size = n) (parent : NodeId) {name : String}
    (hname : isTrailingName name = false) {next : NodeId → Registry H → Built H}
    (hnext : ∀ r' : Registry H, r'.size = n + 3 → r'.MadeOf (next (n + 2) r') parts) :
    r.MadeOf ((r.location parent name).andThen next) (.location parent name :: parts) := by
  intro id hid
  obtain ⟨j, hj, hthen⟩ := andThen_eq_ok hid
  have hsize := size_eq_of_keeps (fun _ hP => location_keeps hP r parent name) hj
  rw [length_locationOrigins hname] at hsize
  rw [hthen, location_result hname hj, hn] at hid ⊢
  exact hnext _ (hn ▸ hsize) id hid

theorem MadeOf.command {data : CommandData H} {next : NodeId → Registry H → Built H}
    (hnext : ∀ r' : Registry H, r'.size = r.size + 1 → r'.MadeOf (next r.size r') parts) :
    r.MadeOf ((r.command data).andThen next) (.command data :: parts) := by
  intro id hid
  obtain ⟨j, hj, hthen⟩ := andThen_eq_ok hid
  have hsize := size_eq_of_keeps (fun _ hP => command_keeps hP r data) hj
  rw [hthen, (command_result hj).1] at hid ⊢
  exact hnext _ hsize id hid

-- Each step of a built-in command is taken together with the number of nodes there are by then, and
-- so the nodes it refers to are those that its parts refer to.
theorem addHelp_madeOf (r : Registry H) :
    r.MadeOf r.addHelp (.command helpData :: BuildStep.helpBranch r.size) := by
  refine .command fun r' hn => ?_
  refine .attach hn _ _ fun r hn => ?_
  refine .argument hn _ _ fun r hn => ?_
  refine .attach hn _ _ fun r hn => ?_
  refine .argument hn _ _ fun r hn => ?_
  refine .attach hn _ _ fun r _ => ?_
  exact .done _

theorem addGazes_madeOf {n : Nat} (hn : r.size = n) (place : NodeId) (subject : Subject) :
    r.MadeOf (r.addGazes place subject) (BuildStep.gazeBranch place n subject) := by
  refine .argument hn _ _ fun r hn => ?_
  refine .attach hn _ _ fun r hn => ?_
  refine .argument hn _ _ fun r hn => ?_
  refine .argument hn _ _ fun r hn => ?_
  refine .argument hn _ _ fun r hn => ?_
  refine .attach hn _ _ fun r hn => ?_
  refine .literal hn _ _ fun r hn => ?_
  refine .argument hn _ _ fun r hn => ?_
  refine .argument hn _ _ fun r hn => ?_
  refine .attach hn _ _ fun r hn => ?_
  refine .location hn _ (by decide) fun r hn => ?_
  refine .argument hn _ _ fun r _ => ?_
  exact .single (.attach _ _)

/-- All ways to decide the view, followed by other steps. -/
theorem MadeOf.gazes {n : Nat} (hn : r.size = n) (place : NodeId) (subject : Subject)
    {next : NodeId → Registry H → Built H}
    (hnext : ∀ id (r' : Registry H), r'.size = n + 11 → r'.MadeOf (next id r') parts) :
    r.MadeOf ((r.addGazes place subject).andThen next)
      (BuildStep.gazeBranch place n subject ++ parts) := by
  refine .andThen (addGazes_madeOf hn place subject) fun id hid => hnext id _ ?_
  rw [size_eq_of_keeps (fun _ hP => addGazes_keeps hP r place subject) hid, hn, gazeOrigins]
  simp only [List.length_cons, List.length_append,
    length_locationOrigins (show isTrailingName "lookAtPosition" = false by decide)]
  rfl

theorem addTeleport_madeOf (r : Registry H) :
    r.MadeOf r.addTeleport (.command teleportData :: BuildStep.teleportBranch r.size) := by
  refine .command fun r' hn => ?_
  refine .argument hn _ _ fun r hn => ?_
  refine .attach hn _ _ fun r hn => ?_
  refine .location hn _ (by decide) fun r hn => ?_
  refine .gazes hn _ _ fun _ r hn => ?_
  refine .argument hn _ _ fun r hn => ?_
  refine .argument hn _ _ fun r hn => ?_
  refine .argument hn _ _ fun r hn => ?_
  refine .attach hn _ _ fun r hn => ?_
  refine .location hn _ (by decide) fun r hn => ?_
  rw [← List.append_nil (BuildStep.gazeBranch _ _ .victim)]
  refine .gazes hn _ _ fun _ r _ => ?_
  exact .done _

theorem command_eq_push {data : CommandData H} (hfree : r.taken? data.names = none) :
    r.command data = .grown (r.push none data ⟨data.name, .literal⟩) := by
  simp only [command, hfree]

/-- **A step that begins a command** declares its root, whose names were free, and then goes on
below it by single steps. -/
theorem apply_of_root? {step : BuildStep H} {data : CommandData H} (hroot : step.root? = some data)
    {id : NodeId} (h : (r.apply step).result = .ok id) :
    r.taken? data.names = none ∧
      (r.apply step).registry =
        (r.push none data ⟨data.name, .literal⟩).1.after (step.branch r.size) := by
  have hparts : r.MadeOf (r.apply step) (.command data :: step.branch r.size) := by
    cases step with
    | command _ =>
      cases hroot
      exact .single _
    | help =>
      cases hroot
      exact addHelp_madeOf r
    | teleport =>
      cases hroot
      exact addTeleport_madeOf r
    | _ => cases hroot
  have hfree : r.taken? data.names = none := by
    cases step with
    | command _ =>
      cases hroot
      exact (command_result h).2
    | help | teleport =>
      cases hroot
      obtain ⟨j, hj, -⟩ := andThen_eq_ok h
      exact (command_result hj).2
    | _ => cases hroot
  refine ⟨hfree, ?_⟩
  rw [hparts id h]
  show ((r.command data).registry).after _ = _
  rw [command_eq_push hfree]
  rfl

/-! ### Nodes that a step leaves alone -/

theorem WellFormed.grows {r' : Registry H} (hr : r.WellFormed) (h : Grows r r') :
    r'.WellFormed := by
  induction h with
  | refl => exact hr
  | tail _ hm ih => exact ih.move hm

variable {id : NodeId} {node : Node H}

theorem push_node? (hnode : r.node? id = some node) {parent : Option NodeId}
    (hparent : parent ≠ some id) (data : CommandData H) (a : Argument H) :
    (r.push parent data a).1.node? id = some node := by
  rw [node?_push, if_neg (Nat.ne_of_lt (node?_lt hnode)), hnode, Option.map_some,
    if_neg hparent]

theorem argument_node? (hnode : r.node? id = some node) {parent : NodeId} (hparent : parent ≠ id)
    (a : Argument H) : (r.argument parent a).registry.node? id = some node := by
  unfold argument
  split
  · exact hnode
  · next above _ => exact push_node? hnode (mt Option.some.inj hparent) above.data a

/-- **What an argument does to each node**: it stands at the end, and its parent has adopted it. -/
theorem argument_nodes {parent : NodeId} (hnode : r.node? parent = some node) (a : Argument H) :
    (r.argument parent a).registry.size = r.size + 1 ∧
      (r.argument parent a).registry.node? r.size =
        some ⟨node.data, a, node.depth + 1, some parent, [], none⟩ ∧
      (r.argument parent a).registry.node? parent = some (node.adopt r.size) ∧
      ∀ j other, parent ≠ j → r.node? j = some other →
        (r.argument parent a).registry.node? j = some other := by
  have hregistry : (r.argument parent a).registry = (r.push (some parent) node.data a).1 := by
    simp only [argument, hnode, Built.grown]
  rw [hregistry]
  refine ⟨size_push _ _ _ _, ?_, ?_, fun j other hj hother =>
    push_node? hother (mt Option.some.inj hj) _ _⟩
  · rw [node?_push, if_pos rfl, depthBelow_some hnode]
  · rw [node?_push, if_neg (Nat.ne_of_lt (node?_lt hnode)), hnode, Option.map_some, if_pos rfl]

/-- A single step leaves a node alone that it does not go on from. -/
theorem single_node? (hr : r.WellFormed) (hnode : r.node? id = some node) {step : BuildStep H}
    {base : NodeId} (hstep : step.base? = some base) (hbase : base ≠ id) :
    (r.apply step).registry.node? id = some node := by
  cases step with
  | argument parent a =>
    cases hstep
    exact argument_node? hnode hbase a
  | literal parent data =>
    cases hstep
    simp only [apply, literal]
    split
    · exact hnode
    · exact push_node? hnode (mt Option.some.inj hbase) data _
  | location parent name =>
    cases hstep
    have hlater : ∀ k, r.size + k ≠ id := fun k =>
      Nat.ne_of_gt (Nat.lt_of_lt_of_le (node?_lt hnode) (Nat.le_add_right _ k))
    simp only [apply, location_eq_after hr, locationParts]
    split
    · exact argument_node? hnode hbase _
    · exact argument_node? (argument_node? (argument_node? hnode hbase _) (hlater 0) _)
        (hlater 1) _
  | attach target handler =>
    cases hstep
    cases htarget : r.node? base with
    | none =>
      simp only [apply, attach, htarget]
      exact hnode
    | some above =>
      rw [apply, attach_eq htarget]
      split
      · rw [node?_setHandler, hnode, Option.map_some, if_neg hbase]
      · exact hnode
  | command _ | help | teleport => cases hstep

theorem after_node? {parts : List (BuildStep H)} (hr : r.WellFormed)
    (hnode : r.node? id = some node)
    (hparts : ∀ part ∈ parts, ∃ base, part.base? = some base ∧ base ≠ id) :
    (r.after parts).node? id = some node := by
  induction parts generalizing r with
  | nil => exact hnode
  | cons part parts ih =>
    obtain ⟨base, hstep, hbase⟩ := hparts part List.mem_cons_self
    exact ih (hr.grows (apply_grows r part)) (single_node? hr hnode hstep hbase)
      fun part hpart => hparts part (List.mem_cons_of_mem _ hpart)

/-- **A step leaves every node alone but the one it goes on from.** -/
theorem apply_node? (hr : r.WellFormed) (hnode : r.node? id = some node) {step : BuildStep H}
    (hbase : ∀ base ∈ step.base?, base ≠ id) : (r.apply step).registry.node? id = some node := by
  cases hstep : step.root? with
  | none =>
    obtain ⟨base, hstep⟩ := BuildStep.root?_eq_none_iff.mp hstep
    exact single_node? hr hnode hstep (hbase base hstep)
  | some data =>
    cases hresult : (r.apply step).result with
    | error e =>
      rw [apply_unchanged hr hresult]
      exact hnode
    | ok _ =>
      obtain ⟨hfree, heq⟩ := apply_of_root? hstep hresult
      rw [heq]
      refine after_node? (hr.move (.command r data hfree))
        (push_node? hnode (Option.some_ne_none _).symm data _) fun part hpart => ?_
      -- The parts go on from new nodes, and this one is old.
      obtain ⟨base, hpart, hle⟩ := BuildStep.le_base_of_mem_branch hpart
      exact ⟨base, hpart, Nat.ne_of_gt (Nat.lt_of_lt_of_le (node?_lt hnode) hle)⟩

end Registry

end CommandTree
