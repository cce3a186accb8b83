import CommandTree.Registry.Build
import Mathlib.Logic.Relation

/-!
# How a registry grows

Whatever a step of declaring commands does, it does by small moves: a new command,
a new argument or keyword below a node, a handler put on a node.  A step that fails
makes no move, and the built-in commands make several.  So what the empty registry
satisfies and each move keeps, every registry satisfies that can be built.

A node does not tell how it was declared: with metadata of its own, or with those of
its parent.  The steps tell, and what is to be said about it is kept by the moves
together with a list of the origins of all nodes.

## Main definitions

* `Registry.Move` — the small moves.
* `Registry.Grows` — any number of moves in a row.
* `Registry.Reachable` — the registries that steps build from nothing.
* `Registry.after` — a registry after more steps.
* `Origin`, `Registry.origins` — how the nodes that steps declare come about.
* `Registry.Kept` — what every move keeps.
* `Host.still` — surroundings for examples.

## Main results

* `node?_push`, `node?_setHandler` — what the two basic changes do to each node.
* `apply_keeps`, `apply_grows` — every step, failing or not, is a row of moves.
* `Reachable.induction` — induction on how a registry was built.
* `ofSteps_keeps` — the same with the origins of the nodes.
-/

namespace CommandTree

variable {H : Host}

/-- The node with one more child at the end. -/
def Node.adopt (node : Node H) (child : NodeId) : Node H :=
  { node with children := node.children ++ [child] }

namespace Registry

/-! ### The two basic changes -/

/-- The depth of a new node below `parent`. -/
def depthBelow (r : Registry H) (parent : Option NodeId) : Nat :=
  ((parent.bind r.node?).map (·.depth + 1)).getD 0

theorem node?_lt {r : Registry H} {id : NodeId} {node : Node H} (h : r.node? id = some node) :
    id < r.size :=
  (Array.getElem?_eq_some_iff.mp h).1

theorem exists_node?_of_lt {r : Registry H} {id : NodeId} (h : id < r.size) :
    ∃ node, r.node? id = some node :=
  ⟨r.nodes[id], Array.getElem?_eq_some_iff.mpr ⟨h, rfl⟩⟩

theorem node?_eq_none_iff {r : Registry H} {id : NodeId} : r.node? id = none ↔ r.size ≤ id :=
  Array.getElem?_eq_none_iff

@[simp] theorem node?_empty (id : NodeId) : (empty : Registry H).node? id = none := by
  simp [node?, empty]

/-- **What a push does to each node**: the new one stands at the end, its parent has adopted it,
and the others are as before. -/
theorem node?_push (r : Registry H) (parent : Option NodeId) (data : CommandData H)
    (a : Argument H) (id : NodeId) :
    (r.push parent data a).1.node? id =
      if id = r.size then some ⟨data, a, r.depthBelow parent, parent, [], none⟩
      else (r.node? id).map fun node => if parent = some id then node.adopt r.size else node := by
  cases parent with
  | none =>
    simp only [push, node?, size, Array.getElem?_push, reduceCtorEq, if_false]
    split
    · rfl
    · simp
  | some p =>
    simp only [push, node?, size, Array.getElem?_push, Array.size_modify, Array.getElem?_modify,
      Option.some.injEq]
    split
    · rfl
    · split
      · rfl
      · simp

/-- Putting a handler on a node changes nothing else. -/
theorem node?_setHandler (r : Registry H) (id : NodeId) (handler : Handler H) (j : NodeId) :
    (r.setHandler id handler).node? j =
      (r.node? j).map fun node =>
        if id = j then { node with handler := some handler } else node := by
  simp only [setHandler, node?, Array.getElem?_modify]
  split
  · rfl
  · simp

/-! ### Moves -/

/-- The small moves that steps are made of. -/
inductive Move : Registry H → Registry H → Prop
  /-- A new command, whose names are all free. -/
  | command (r : Registry H) (data : CommandData H) (hfree : r.taken? data.names = none) :
    Move r (r.push none data ⟨data.name, .literal⟩).1
  /-- A new argument below a node, with the metadata of that node. -/
  | argument (r : Registry H) {parent : NodeId} {node : Node H} (a : Argument H)
    (hparent : r.node? parent = some node) : Move r (r.push (some parent) node.data a).1
  /-- A new keyword below a node. -/
  | literal (r : Registry H) {parent : NodeId} {node : Node H} (data : CommandData H)
    (hparent : r.node? parent = some node) :
    Move r (r.push (some parent) data ⟨data.name, .literal⟩).1
  /-- A handler put on a node whose values it takes. -/
  | attach (r : Registry H) {id : NodeId} {node : Node H} (handler : Handler H)
    (hnode : r.node? id = some node) (hfit : r.schema id = handler.params) :
    Move r (r.setHandler id handler)

/-- Any number of moves in a row. -/
abbrev Grows : Registry H → Registry H → Prop := Relation.ReflTransGen Move

/-- A registry that steps build from nothing; steps that fail are passed over. -/
def Reachable (r : Registry H) : Prop := ∃ steps, r = ofSteps steps

/-- The registry after more steps; steps that fail are passed over. -/
def after (r : Registry H) (steps : List (BuildStep H)) : Registry H :=
  steps.foldl (fun r step => (r.apply step).registry) r

end Registry

/-! ### Origins -/

/-- How a node is declared. -/
inductive Origin where
  /-- As a command or a keyword, with metadata of its own. -/
  | keyword
  /-- As an argument, with the metadata of its parent. -/
  | argument
  deriving DecidableEq, Repr

/-- The origins of the nodes of a location. -/
def locationOrigins (name : String) : List Origin :=
  if isTrailingName name then [.argument] else [.argument, .argument, .argument]

/-- The origins of the nodes below a place to go to. -/
def gazeOrigins : List Origin :=
  .argument :: .argument :: .argument :: .argument :: .keyword :: .argument :: .argument ::
    (locationOrigins "lookAtPosition" ++ [.argument])

/-- The origins of the nodes that a step declares, in order, if it does not fail. -/
def BuildStep.origins : BuildStep H → List Origin
  | .command _ => [.keyword]
  | .argument _ _ => [.argument]
  | .literal _ _ => [.keyword]
  | .location _ name => locationOrigins name
  | .attach _ _ => []
  | .help => [.keyword, .argument, .argument]
  | .teleport =>
    .keyword :: .argument :: (locationOrigins "destination" ++ (gazeOrigins ++
      .argument :: .argument :: .argument :: (locationOrigins "destination" ++ gazeOrigins)))

namespace Registry

/-- The origins of the nodes that steps add to a registry.  A step that fails on its way has
declared only the first of its nodes. -/
def originsAfter (r : Registry H) : List (BuildStep H) → List Origin
  | [] => []
  | step :: steps =>
    step.origins.take ((r.apply step).registry.size - r.size) ++
      (r.apply step).registry.originsAfter steps

/-- The origins of the nodes of the registry that steps build from nothing. -/
def origins (steps : List (BuildStep H)) : List Origin := (empty : Registry H).originsAfter steps

/-! ### Steps are made of moves -/

/-- A property of a registry and the origins of its nodes that every move keeps. -/
structure Kept (P : Registry H → List Origin → Prop) : Prop where
  /-- A new command. -/
  command : ∀ {r made} (data : CommandData H), P r made → r.taken? data.names = none →
    P (r.push none data ⟨data.name, .literal⟩).1 (made ++ [.keyword])
  /-- A new argument. -/
  argument : ∀ {r made parent node} (a : Argument H), P r made → r.node? parent = some node →
    P (r.push (some parent) node.data a).1 (made ++ [.argument])
  /-- A new keyword. -/
  literal : ∀ {r made parent node} (data : CommandData H), P r made →
    r.node? parent = some node →
    P (r.push (some parent) data ⟨data.name, .literal⟩).1 (made ++ [.keyword])
  /-- A handler. -/
  attach : ∀ {r made id node} (handler : Handler H), P r made → r.node? id = some node →
    r.schema id = handler.params → P (r.setHandler id handler) made

/-- A step keeps a property.  The nodes it declares are of the origins planned, all of them unless
it fails on its way. -/
def Keeps (P : Registry H → List Origin → Prop) (r : Registry H) (b : Built H)
    (plan : List Origin) : Prop :=
  ∀ made, P r made → ∃ done, done <+: plan ∧ P b.registry (made ++ done) ∧
    ∀ id, b.result = .ok id → done = plan

section Steps

variable {P : Registry H → List Origin → Prop} {r : Registry H}

/-- A step that fails at once keeps everything. -/
theorem keeps_error (e : BuildError) (plan : List Origin) : Keeps P r ⟨.error e, r⟩ plan := by
  intro made h
  exact ⟨[], List.nil_prefix, (List.append_nil made).symm ▸ h, fun id hid => nomatch hid⟩

/-- A step that ends well keeps what its only move keeps. -/
theorem keeps_ok {r' : Registry H} {id : NodeId} {plan : List Origin}
    (h : ∀ made, P r made → P r' (made ++ plan)) : Keeps P r ⟨.ok id, r'⟩ plan :=
  fun made hmade => ⟨plan, List.prefix_refl plan, h made hmade, fun _ _ => rfl⟩

theorem command_keeps (hP : Kept P) (r : Registry H) (data : CommandData H) :
    Keeps P r (r.command data) [.keyword] := by
  unfold command
  cases h : r.taken? data.names with
  | none => exact keeps_ok fun _ hmade => hP.command data hmade h
  | some e => exact keeps_error e _

theorem argument_keeps (hP : Kept P) (r : Registry H) (parent : NodeId) (a : Argument H) :
    Keeps P r (r.argument parent a) [.argument] := by
  unfold argument
  cases h : r.node? parent with
  | none => exact keeps_error _ _
  | some node => exact keeps_ok fun _ hmade => hP.argument a hmade h

theorem literal_keeps (hP : Kept P) (r : Registry H) (parent : NodeId) (data : CommandData H) :
    Keeps P r (r.literal parent data) [.keyword] := by
  unfold literal
  cases h : r.node? parent with
  | none => exact keeps_error _ _
  | some node => exact keeps_ok fun _ hmade => hP.literal data hmade h

theorem attach_keeps (hP : Kept P) (r : Registry H) (id : NodeId) (handler : Handler H) :
    Keeps P r (r.attach id handler) [] := by
  unfold attach
  cases h : r.node? id with
  | none => exact keeps_error _ _
  | some node =>
    by_cases hfit : r.schema id = handler.params
    · simp only [hfit, if_true]
      exact keeps_ok fun made hmade =>
        (List.append_nil made).symm ▸ hP.attach handler hmade h hfit
    · simp only [hfit, if_false]
      exact keeps_error _ _

/-- A step followed by another one plans the nodes of both. -/
theorem andThen_keeps {b : Built H} {next : NodeId → Registry H → Built H}
    {first second plan : List Origin} (hb : Keeps P r b first)
    (hnext : ∀ id r', Keeps P r' (next id r') second) (hplan : first ++ second = plan) :
    Keeps P r (b.andThen next) plan := by
  intro made hmade
  subst hplan
  obtain ⟨done, hdone, hP, hall⟩ := hb made hmade
  unfold Built.andThen
  cases hresult : b.result with
  | error e =>
    exact ⟨done, hdone.trans (List.prefix_append first second), hP, fun id hid => nomatch hid⟩
  | ok id =>
    obtain rfl := hall id hresult
    obtain ⟨more, hmore, hP', hall'⟩ := hnext id b.registry (made ++ done) hP
    rw [List.append_assoc] at hP'
    exact ⟨done ++ more, (List.prefix_append_right_inj done).mpr hmore, hP', fun id' hid' =>
      congrArg (done ++ ·) (hall' id' hid')⟩

-- The built-in commands below are rows of steps: each proof names the nodes as they are declared,
-- and what is left of the plan follows from what was declared before.
theorem location_keeps (hP : Kept P) (r : Registry H) (parent : NodeId) (name : String) :
    Keeps P r (r.location parent name) (locationOrigins name) := by
  unfold location locationOrigins
  split
  · exact argument_keeps hP r parent _
  · refine andThen_keeps (argument_keeps hP r parent _) (fun x r => ?_) rfl
    refine andThen_keeps (argument_keeps hP r x _) (fun y r => ?_) rfl
    exact argument_keeps hP r y _

theorem addHelp_keeps (hP : Kept P) (r : Registry H) :
    Keeps P r r.addHelp (BuildStep.help : BuildStep H).origins := by
  refine andThen_keeps (command_keeps hP r _) (fun root r => ?_) rfl
  refine andThen_keeps (attach_keeps hP r root _) (fun _ r => ?_) rfl
  refine andThen_keeps (argument_keeps hP r root _) (fun page r => ?_) rfl
  refine andThen_keeps (attach_keeps hP r page _) (fun _ r => ?_) rfl
  refine andThen_keeps (argument_keeps hP r root _) (fun name r => ?_) rfl
  refine andThen_keeps (attach_keeps hP r name _) (fun _ r => ?_) rfl
  exact keeps_ok fun made hmade => (List.append_nil made).symm ▸ hmade

theorem addGazes_keeps (hP : Kept P) (r : Registry H) (place : NodeId) (subject : Subject) :
    Keeps P r (r.addGazes place subject) gazeOrigins := by
  refine andThen_keeps (argument_keeps hP r place _) (fun blocks r => ?_) rfl
  refine andThen_keeps (attach_keeps hP r blocks _) (fun _ r => ?_) rfl
  refine andThen_keeps (argument_keeps hP r place _) (fun yaw r => ?_) rfl
  refine andThen_keeps (argument_keeps hP r yaw _) (fun pitch r => ?_) rfl
  refine andThen_keeps (argument_keeps hP r pitch _) (fun blocks r => ?_) rfl
  refine andThen_keeps (attach_keeps hP r blocks _) (fun _ r => ?_) rfl
  refine andThen_keeps (literal_keeps hP r place _) (fun facing r => ?_) rfl
  refine andThen_keeps (argument_keeps hP r facing _) (fun entity r => ?_) rfl
  refine andThen_keeps (argument_keeps hP r entity _) (fun blocks r => ?_) rfl
  refine andThen_keeps (attach_keeps hP r blocks _) (fun _ r => ?_) rfl
  refine andThen_keeps (location_keeps hP r facing _) (fun position r => ?_) rfl
  refine andThen_keeps (argument_keeps hP r position _) (fun blocks r => ?_) rfl
  exact attach_keeps hP r blocks _

theorem addTeleport_keeps (hP : Kept P) (r : Registry H) :
    Keeps P r r.addTeleport (BuildStep.teleport : BuildStep H).origins := by
  refine andThen_keeps (command_keeps hP r _) (fun root r => ?_) rfl
  refine andThen_keeps (argument_keeps hP r root _) (fun player r => ?_) rfl
  refine andThen_keeps (attach_keeps hP r player _) (fun _ r => ?_) rfl
  refine andThen_keeps (location_keeps hP r root _) (fun place r => ?_) rfl
  refine andThen_keeps (addGazes_keeps hP r place .sender) (fun _ r => ?_) rfl
  refine andThen_keeps (argument_keeps hP r root _) (fun victim r => ?_) rfl
  refine andThen_keeps (argument_keeps hP r victim _) (fun player r => ?_) rfl
  refine andThen_keeps (argument_keeps hP r player _) (fun blocks r => ?_) rfl
  refine andThen_keeps (attach_keeps hP r blocks _) (fun _ r => ?_) rfl
  refine andThen_keeps (location_keeps hP r victim _) (fun place r => ?_) rfl
  refine andThen_keeps (addGazes_keeps hP r place .victim) (fun _ r => ?_) (List.append_nil _)
  exact keeps_ok fun made hmade => (List.append_nil made).symm ▸ hmade

/-- **Every step, failing or not, keeps what the moves keep**, and declares nodes of the origins
planned. -/
theorem apply_keeps (hP : Kept P) (r : Registry H) (step : BuildStep H) :
    Keeps P r (r.apply step) step.origins := by
  cases step with
  | command data => exact command_keeps hP r data
  | argument parent a => exact argument_keeps hP r parent a
  | literal parent data => exact literal_keeps hP r parent data
  | location parent name => exact location_keeps hP r parent name
  | attach id handler => exact attach_keeps hP r id handler
  | help => exact addHelp_keeps hP r
  | teleport => exact addTeleport_keeps hP r

end Steps

/-! ### Runs of steps -/

/-- Every move keeps that the registry has grown. -/
theorem kept_grows (start : Registry H) : Kept fun r _ => Grows start r where
  command data h hfree := h.tail (.command _ data hfree)
  argument a h hparent := h.tail (.argument _ a hparent)
  literal data h hparent := h.tail (.literal _ data hparent)
  attach handler h hnode hfit := h.tail (.attach _ handler hnode hfit)

/-- **Every step, failing or not, is a row of moves.** -/
theorem apply_grows (r : Registry H) (step : BuildStep H) : Grows r (r.apply step).registry := by
  obtain ⟨-, -, h, -⟩ := apply_keeps (kept_grows r) r step [] .refl
  exact h

theorem after_grows (r : Registry H) (steps : List (BuildStep H)) : Grows r (r.after steps) := by
  induction steps generalizing r with
  | nil => exact .refl
  | cons step steps ih => exact (apply_grows r step).trans (ih _)

theorem Reachable.grows {r : Registry H} (hr : r.Reachable) : Grows empty r := by
  obtain ⟨steps, rfl⟩ := hr
  exact after_grows empty steps

/-- More steps lead from registries that can be built to registries that can be built. -/
theorem Reachable.after {r : Registry H} (hr : r.Reachable) (steps : List (BuildStep H)) :
    (r.after steps).Reachable := by
  obtain ⟨early, rfl⟩ := hr
  exact ⟨early ++ steps, List.foldl_append.symm⟩

/-- **Induction on how a registry was built.** -/
theorem Reachable.induction {P : Registry H → Prop} (hempty : P empty)
    (hmove : ∀ r r', P r → Move r r' → P r') {r : Registry H} (hr : r.Reachable) : P r := by
  have h := hr.grows
  clear hr
  induction h with
  | refl => exact hempty
  | tail _ hm ih => exact hmove _ _ ih hm

/-! ### Runs with the origins of their nodes -/

theorem size_push (r : Registry H) (parent : Option NodeId) (data : CommandData H)
    (a : Argument H) : (r.push parent data a).1.size = r.size + 1 := by
  cases parent <;> simp [push, size]

theorem size_setHandler (r : Registry H) (id : NodeId) (handler : Handler H) :
    (r.setHandler id handler).size = r.size :=
  Array.size_modify

/-- Every move keeps that there is one origin for each node. -/
theorem Kept.sized {P : Registry H → List Origin → Prop} (hP : Kept P) :
    Kept fun r made => P r made ∧ made.length = r.size where
  command data h hfree := ⟨hP.command data h.1 hfree, by simp [size_push, h.2]⟩
  argument a h hparent := ⟨hP.argument a h.1 hparent, by simp [size_push, h.2]⟩
  literal data h hparent := ⟨hP.literal data h.1 hparent, by simp [size_push, h.2]⟩
  attach handler h hnode hfit :=
    ⟨hP.attach handler h.1 hnode hfit, h.2.trans (size_setHandler _ _ _).symm⟩

/-- A step that ends well adds the nodes that it plans. -/
theorem size_eq_of_keeps {r : Registry H} {b : Built H} {plan : List Origin} {id : NodeId}
    (h : ∀ P : Registry H → List Origin → Prop, Kept P → Keeps P r b plan)
    (hid : b.result = .ok id) : b.registry.size = r.size + plan.length := by
  have hkept : Kept fun (r : Registry H) made => True ∧ made.length = r.size :=
    Kept.sized ⟨fun _ _ _ => trivial, fun _ _ _ => trivial, fun _ _ _ => trivial,
      fun _ _ _ _ => trivial⟩
  obtain ⟨done, -, ⟨-, hsize⟩, hall⟩ := h _ hkept (List.replicate r.size .keyword)
    ⟨trivial, List.length_replicate⟩
  rw [← hsize, hall id hid, List.length_append, List.length_replicate]

/-- **What the moves keep, a run of steps keeps**, together with the origins of the nodes that the
steps declare. -/
theorem after_keeps {P : Registry H → List Origin → Prop} (hP : Kept P) {r : Registry H}
    {made : List Origin} (h : P r made) (hsize : made.length = r.size)
    (steps : List (BuildStep H)) : P (r.after steps) (made ++ r.originsAfter steps) := by
  induction steps generalizing r made with
  | nil => exact (List.append_nil made).symm ▸ h
  | cons step steps ih =>
    obtain ⟨done, hdone, ⟨h', hsize'⟩, -⟩ := apply_keeps hP.sized r step made ⟨h, hsize⟩
    -- The nodes declared are as many as the registry has grown by.
    have hcount : done.length = (r.apply step).registry.size - r.size := by
      rw [← hsize', List.length_append, hsize, Nat.add_sub_cancel_left]
    have htake : done = step.origins.take ((r.apply step).registry.size - r.size) :=
      hcount ▸ List.prefix_iff_eq_take.mp hdone
    rw [originsAfter, ← htake, ← List.append_assoc]
    exact ih h' hsize'

theorem ofSteps_keeps {P : Registry H → List Origin → Prop} (hP : Kept P) (hempty : P empty [])
    (steps : List (BuildStep H)) : P (ofSteps steps) (origins steps) :=
  after_keeps hP hempty rfl steps

end Registry

/-! ### Surroundings to try things in -/

/-- Surroundings in which everyone is an operator, stays and can be found, and in which only
handlers change the state. -/
abbrev Host.still (S : Type) : Host where
  Who := String
  State := S
  Action := Unit
  name who := who
  isOp _ _ := true
  position _ _ := .origin
  view _ _ := .origin
  find name s := (some name, s)
  isValid _ s := (true, s)
  deliver _ _ s := s
  move? _ _ _ _ := none

end CommandTree
