import CommandTree.Proofs.Dispatch.Alone
import CommandTree.Proofs.Resolve.Shadow
import CommandTree.World
import Mathlib.Tactic.FinCases

/-!
# The tree of the teleport command

The teleport command by itself, in a world of players: its nodes, the words that each of
them takes, and the child that a word goes to.  The first child that takes a word gets it,
which matters for players who are called `1` or `~`.  Half of the tree, the part for
teleporting another player, gets no word, for its first node comes after another one of
the same type.

## Main definitions

* `teleportTree`, `teleportNodes` — the command, and those of its nodes that matter.
* `IsSwitch` — the words for yes and no.

## Main results

* `selfContained_teleportTree`, `still_teleportTree` — what a node makes of a word depends
  on the players alone, and asking changes nothing.
* `permits_teleportTree` — an operator may use all of it.
* `find?_root`, `find?_place`, `find?_facing` — **the child that a word goes to**.
-/

namespace CommandTree

/-! ### The tree -/

open Registry

/-- The teleport command by itself. -/
def teleportTree : Registry World.host := (empty : Registry World.host).addTeleport.registry

/-- Its nodes that words can come to, and the one that is called `victim`. -/
def teleportNodes : List (Node World.host) :=
  [⟨teleportData, ⟨"teleport", .literal⟩, 0, none, [1, 2, 16], none⟩,
    ⟨teleportData, ⟨"destination", .player⟩, 1, some 0, [],
      some (TeleportTask.toPlayer .sender).handler⟩,
    ⟨teleportData, ⟨"destination", .axis⟩, 1, some 0, [3], none⟩,
    ⟨teleportData, ⟨"destination_y*", .axis⟩, 2, some 2, [4], none⟩,
    ⟨teleportData, ⟨"destination_z*", .axis⟩, 3, some 3, [5, 6, 9], none⟩,
    ⟨teleportData, ⟨"checkForBlocks", .boolean⟩, 4, some 4, [],
      some (TeleportTask.toPlace .sender .keep).handler⟩,
    ⟨teleportData, ⟨"yRot", .integer none⟩, 4, some 4, [7], none⟩,
    ⟨teleportData, ⟨"xRot", .integer none⟩, 5, some 6, [8], none⟩,
    ⟨teleportData, ⟨"checkForBlocks", .boolean⟩, 6, some 7, [],
      some (TeleportTask.toPlace .sender .rotate).handler⟩,
    ⟨facingData, ⟨"facing", .literal⟩, 4, some 4, [10, 12], none⟩,
    ⟨facingData, ⟨"lookAtEntity", .player⟩, 5, some 9, [11], none⟩,
    ⟨facingData, ⟨"checkForBlocks", .boolean⟩, 6, some 10, [],
      some (TeleportTask.toPlace .sender .atPlayer).handler⟩,
    ⟨facingData, ⟨"lookAtPosition", .axis⟩, 5, some 9, [13], none⟩,
    ⟨facingData, ⟨"lookAtPosition_y*", .axis⟩, 6, some 12, [14], none⟩,
    ⟨facingData, ⟨"lookAtPosition_z*", .axis⟩, 7, some 13, [15], none⟩,
    ⟨facingData, ⟨"checkForBlocks", .boolean⟩, 8, some 14, [],
      some (TeleportTask.toPlace .sender .atPlace).handler⟩,
    ⟨teleportData, ⟨"victim", .player⟩, 1, some 0, [17, 19], none⟩]

set_option maxRecDepth 10000 in
theorem take_teleportTree : teleportTree.nodes.toList.take 17 = teleportNodes := by
  with_unfolding_all rfl

/-- All nodes, looked at one by one: none has a type of the host. -/
theorem survey_teleportTree : teleportTree.size = 33 ∧ ∀ id < 33, ∀ node ∈ teleportTree.node? id,
    node.argument.type.isCustom = false := by
  decide +kernel

set_option maxRecDepth 10000 in
/-- The metadata of its nodes: of the command, or of the keyword before something to look at. -/
theorem data_teleportTree : teleportTree.nodes.toList.map Node.data =
    List.replicate 9 teleportData ++ List.replicate 7 facingData ++
      List.replicate 10 teleportData ++ List.replicate 7 facingData := by
  with_unfolding_all rfl

theorem node?_teleportTree {id : NodeId} (hid : id < 17) :
    teleportTree.node? id = teleportNodes[id]? := by
  rw [← take_teleportTree, List.getElem?_take_of_lt hid, Array.getElem?_toList, node?]

theorem type_teleportTree {id : NodeId} {node : Node World.host}
    (hnode : teleportTree.node? id = some node) (type : CustomType World.host) :
    node.argument.type ≠ .custom type :=
  ArgumentType.ne_custom
    (survey_teleportTree.2 id (survey_teleportTree.1 ▸ node?_lt hnode) node hnode) type

theorem selfContained_teleportTree : teleportTree.SelfContained :=
  SelfContained.of_types type_teleportTree

/-- Questions to its nodes leave the world alone. -/
theorem still_teleportTree : teleportTree.Still := by
  intro id word w
  cases hnode : teleportTree.node? id with
  | none => rw [accepts, hnode]
  | some node =>
    rw [accepts_eq hnode]
    rcases hargument : node.argument with ⟨name, type⟩
    cases type with
    | custom type => exact absurd (by rw [hargument]) (type_teleportTree hnode type)
    | _ => rfl

section Tree

variable {w : World} {who : String} {word : String} {id : NodeId}

/-! ### What nodes take -/

theorem takes_eq (hid : id < 17) : teleportTree.takes w id word =
    teleportNodes[id]?.any fun node => (node.argument.accept [] word w).1.isSome := by
  rw [← node?_teleportTree hid, takes]
  cases hnode : teleportTree.node? id with
  | none => rw [accepts, hnode, Option.any_none]
  | some node =>
    rw [accepts_eq hnode, selfContained_teleportTree hnode _ [], Option.any_some]

theorem takes_player (hid : id ∈ [1, 10, 16]) :
    teleportTree.takes w id word = w.isOnline word := by
  have haccept : teleportTree.takes w id word =
      ((if w.isOnline word then some word else none).map (Value.player (W := String))).isSome := by
    fin_cases hid <;> exact takes_eq (by decide)
  rw [haccept]
  cases w.isOnline word <;> rfl

theorem takes_axis (hid : id ∈ [2, 3, 4, 12, 13, 14]) :
    teleportTree.takes w id word = (Coordinate.read? word).isSome := by
  have haccept : teleportTree.takes w id word =
      ((Coordinate.read? word).map (Value.coordinate (W := String))).isSome := by
    fin_cases hid <;> exact takes_eq (by decide)
  rw [haccept, Option.isSome_map]

theorem takes_integer (hid : id ∈ [6, 7]) :
    teleportTree.takes w id word = (Decimal.readInt? word.toList).isSome := by
  have haccept : teleportTree.takes w id word =
      (((Decimal.readInt? word.toList).filter (Argument.inBounds none)).map
        (Value.integer (W := String))).isSome := by
    fin_cases hid <;> exact takes_eq (by decide)
  rw [haccept]
  cases Decimal.readInt? word.toList <;> rfl

/-- A word for yes or no. -/
def IsSwitch (word : String) : Prop := word = "true" ∨ word = "false"

instance (word : String) : Decidable (IsSwitch word) :=
  inferInstanceAs (Decidable (word = "true" ∨ word = "false"))

theorem takes_switch (hid : id ∈ [5, 8, 11, 15]) :
    teleportTree.takes w id word = decide (IsSwitch word) := by
  have haccept : teleportTree.takes w id word =
      (if word = "true" then some (Value.boolean (W := String) true)
        else if word = "false" then some (.boolean false) else none).isSome := by
    fin_cases hid <;> exact takes_eq (by decide)
  rw [haccept]
  by_cases htrue : word = "true" <;> by_cases hfalse : word = "false" <;>
    simp [IsSwitch, htrue, hfalse]

theorem takes_facing : teleportTree.takes w 9 word = decide (word = "facing") := by
  have haccept : teleportTree.takes w 9 word =
      (if word = "facing" then some (Value.text (W := String) "facing") else none).isSome :=
    takes_eq (by decide)
  rw [haccept]
  by_cases hfacing : word = "facing" <;> simp [hfacing]

/-- An operator may use all of it. -/
theorem permits_teleportTree (hop : World.host.isOp w who = true) (hid : id < 33) :
    teleportTree.permits w who id = true := by
  have hroot : (teleportData (H := World.host)).permits w who = true := hop
  have hfacing : (facingData (H := World.host)).permits w who = true := rfl
  have hdata : ∀ data ∈ teleportTree.nodes.toList.map Node.data, data.permits w who = true := by
    simp [data_teleportTree, hroot, hfacing]
  obtain ⟨node, hnode⟩ := exists_node?_of_lt (survey_teleportTree.1.symm ▸ hid)
  have hmem : node ∈ teleportTree.nodes.toList := Array.mem_def.mp (Array.mem_of_getElem? hnode)
  rw [permits, hnode]
  exact hdata node.data (List.mem_map_of_mem hmem)

/-! ### Where a word goes -/

/-- The nodes that are in no row. -/
theorem survey_forks :
    teleportTree.children 0 = [1, 2, 16] ∧ teleportTree.children 2 = [3] ∧
      teleportTree.children 3 = [4] ∧ teleportTree.children 4 = [5, 6, 9] ∧
      teleportTree.children 9 = [10, 12] ∧
      ∀ id ∈ [0, 2, 3, 4, 9], teleportTree.hasHandler id = false := by
  simp [children, hasHandler, handler?, node?_teleportTree, teleportNodes]

theorem find?_cons_ite {α : Type} (p : α → Bool) (a : α) (l : List α) :
    (a :: l).find? p = if p a then some a else l.find? p := by
  rw [List.find?_cons]
  cases p a <;> rfl

/-- After the keyword: the name of a player, or else a place. -/
theorem find?_facing (w : World) (word : String) :
    (teleportTree.children 9).find? (teleportTree.takes w · word) =
      if w.isOnline word then some 10 else if (Coordinate.read? word).isSome then some 12
      else none := by
  obtain ⟨-, -, -, -, hchildren, -⟩ := survey_forks
  rw [hchildren, find?_cons_ite, find?_cons_ite, takes_player (by decide), takes_axis (by decide)]
  rfl

/-- After a place: a word for yes or no, an angle, or the keyword. -/
theorem find?_place (w : World) (word : String) :
    (teleportTree.children 4).find? (teleportTree.takes w · word) =
      if IsSwitch word then some 5 else if (Decimal.readInt? word.toList).isSome then some 6
      else if word = "facing" then some 9 else none := by
  obtain ⟨-, -, -, hchildren, -⟩ := survey_forks
  rw [hchildren, find?_cons_ite, find?_cons_ite, find?_cons_ite, takes_switch (by decide),
    takes_integer (by decide), takes_facing]
  simp only [decide_eq_true_eq, List.find?_nil]

/-- At first: the name of a player, or else a place.  The node called `victim` gets no word. -/
theorem find?_root (w : World) (word : String) :
    (teleportTree.children 0).find? (teleportTree.takes w · word) =
      if w.isOnline word then some 1 else if (Coordinate.read? word).isSome then some 2
      else none := by
  obtain ⟨hchildren, -⟩ := survey_forks
  rw [hchildren, find?_cons_ite, find?_cons_ite, find?_cons_ite, takes_player (by decide),
    takes_axis (by decide), takes_player (by decide)]
  cases w.isOnline word <;> rfl

end Tree

end CommandTree
