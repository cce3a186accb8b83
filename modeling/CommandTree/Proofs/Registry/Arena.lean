import CommandTree.Help
import CommandTree.Proofs.Registry.Ancestry
import CommandTree.Proofs.Resolve.Descent
import Mathlib.Data.List.Nodup
import Mathlib.Order.WellFounded

/-!
# The arena of nodes

All that goes up or down the tree looks nodes up by their positions, and asks nowhere
whether there is a node.  It need not: the parents, the lists of children and the
depths of a registry that steps have built tell one and the same tree.  Parents stand
before their children, so going up ends at a root, and going down ends because the
registry does.

## Main definitions

* `Registry.Arena` — the nodes of a registry are a tree told three times over.
* `Registry.Navigable` — ways up and down the tree end, and meet nodes only.

## Main results

* `child_lt` — children stand after their parents, within the registry.
* `usageBelow_eq` — usage lines are collected below every child.
* `ofSteps_arena` — the arena of a registry that steps have built.
-/

namespace CommandTree

variable {H : Host}

namespace Registry

/-- The nodes are a tree that is told three times over, by parents, by lists of children and by
depths; their origins, in order, explain their metadata. -/
structure Arena (r : Registry H) (made : List Origin) : Prop where
  /-- A parent stands before its child. -/
  parent_lt : ∀ {id node p}, r.node? id = some node → node.parent = some p → p < id
  /-- Just the nodes without a parent are at depth zero. -/
  depth_eq_zero : ∀ {id node}, r.node? id = some node → (node.depth = 0 ↔ node.parent = none)
  /-- A parent is there, and one step nearer to the root. -/
  depth_succ : ∀ {id node p}, r.node? id = some node → node.parent = some p →
    ∃ above, r.node? p = some above ∧ node.depth = above.depth + 1
  /-- Lists of children increase. -/
  sorted : ∀ {id node}, r.node? id = some node → node.children.Pairwise (· < ·)
  /-- Children are in the registry. -/
  child_lt : ∀ {id node}, r.node? id = some node → ∀ c ∈ node.children, c < r.size
  /-- A node occurs once in the list of its parent, and nowhere else. -/
  count : ∀ {id node}, r.node? id = some node → ∀ {q other}, r.node? q = some other →
    other.children.count id = if node.parent = some q then 1 else 0
  /-- A command is reached by the word it is named by. -/
  root_argument : ∀ {id node}, r.node? id = some node → node.parent = none →
    node.argument = ⟨node.data.name, .literal⟩
  /-- There is one origin for each node. -/
  length_origins : made.length = r.size
  /-- An argument has the metadata of the nearest command or keyword above it. -/
  inherited : ∀ {id node}, r.node? id = some node → made[id]? = some .argument →
    ∃ k owner, r.nearestKeyword? made id = some k ∧ made[k]? = some .keyword ∧
      r.node? k = some owner ∧ node.data = owner.data

/-- Ways up and down the tree come to an end, and all they meet are nodes of the registry. -/
structure Navigable (r : Registry H) : Prop where
  /-- Going up from a node ends at a root, after as many nodes as the node is deep and one more, and
  the path to the node is the way. -/
  path : ∀ {id node}, r.node? id = some node → r.Climb id (r.path id) ∧
    (r.path id).length = node.depth + 1 ∧ ∃ root ∈ r.roots, (r.path id).head? = some root
  /-- Going down from child to child ends. -/
  descend : WellFounded fun c p => c ∈ r.children p
  /-- Children are nodes. -/
  child : ∀ {p c}, c ∈ r.children p → ∃ node, r.node? c = some node
  /-- A walk from a node comes to nodes only, each of them further on in the registry, and all that
  it can ask for a word there are nodes. -/
  walk : ∀ {who id words s path last rest t}, r.Descent who id words s path last rest t →
    (∃ node, r.node? id = some node) → (∃ node, r.node? last = some node) ∧
      id + path.length ≤ last ∧ ∀ c ∈ r.children last, ∃ node, r.node? c = some node
  /-- Usage lines are collected below every child of a node, and nowhere else. -/
  usage : ∀ {id node}, r.node? id = some node → ∀ s who words,
    r.usageBelow s who words id =
      if node.data.permits s who then
        (if node.handler.isSome then [withUsageWord words node] else []) ++
          node.children.flatMap (r.usageBelow s who (withUsageWord words node))
      else []

variable {r : Registry H} {id p c : NodeId} {node : Node H}

/-! ### Parents and children -/

theorem WellFormed.depth_eq_zero_iff (hr : r.WellFormed) (h : r.node? id = some node) :
    node.depth = 0 ↔ node.parent = none :=
  ⟨hr.parent_eq_none h, hr.depth_root h⟩

/-- A node is in the list of its parent once, and in no other. -/
theorem WellFormed.count_children (hr : r.WellFormed) (h : r.node? id = some node) {q : NodeId}
    {other : Node H} (hq : r.node? q = some other) :
    other.children.count id = if node.parent = some q then 1 else 0 := by
  have hnodup : other.children.Nodup := (hr.sorted hq).imp Nat.ne_of_lt
  have hmem : id ∈ other.children ↔ node.parent = some q := by
    rw [hr.mem_children hq]
    constructor
    · rintro ⟨child, hchild, hp⟩
      rwa [Option.some.inj (h.symm.trans hchild)]
    · exact fun hp => ⟨node, h, hp⟩
  rw [hnodup.count]
  simp only [hmem]

/-- Children stand after their parents, and within the registry. -/
theorem child_lt (hr : r.WellFormed) (h : c ∈ r.children p) : p < c ∧ c < r.size := by
  obtain ⟨child, hchild, hp⟩ := node?_of_mem_children hr h
  exact ⟨(hr.parent hchild hp).1, node?_lt hchild⟩

/-! ### Going down -/

/-- Going from child to child comes nearer to the end of the registry. -/
theorem wellFounded_child (hr : r.WellFormed) : WellFounded fun c p => c ∈ r.children p := by
  refine Subrelation.wf (fun {c p} h => ?_) (measure fun id => r.size - id).wf
  obtain ⟨hlt, hsize⟩ := child_lt hr h
  exact Nat.sub_lt_sub_left (Nat.lt_trans hlt hsize) hlt

variable {who : H.Who} {last : NodeId} {words rest : List String} {path : List NodeId}
  {s t : H.State}

/-- A descent from a node ends on a node, and every step leads further on. -/
theorem Descent.add_length_le (hr : r.WellFormed)
    (hd : r.Descent who id words s path last rest t) (h : ∃ node, r.node? id = some node) :
    (∃ node, r.node? last = some node) ∧ id + path.length ≤ last := by
  induction hd with
  | stay => exact ⟨h, Nat.le_refl _⟩
  | @step id child last _ _ _ path _ _ _ htake _ _ ih =>
    have hmem := firstAccepting_mem htake
    obtain ⟨node, hchild, -⟩ := node?_of_mem_children hr hmem
    obtain ⟨hlast, hle⟩ := ih ⟨node, hchild⟩
    refine ⟨hlast, ?_⟩
    calc id + (child :: path).length
        = id + 1 + path.length := by rw [List.length_cons]; exact Nat.add_right_comm _ _ 1
      _ ≤ child + path.length := Nat.add_le_add_right (child_lt hr hmem).1 _
      _ ≤ last := hle

/-- **Usage lines are collected below every child.**  That a child stands after its parent and
within the registry has not to be asked. -/
theorem usageBelow_eq (hr : r.WellFormed) (h : r.node? id = some node) (s : H.State) (who : H.Who)
    (words : List String) :
    r.usageBelow s who words id =
      if node.data.permits s who then
        (if node.handler.isSome then [withUsageWord words node] else []) ++
          node.children.flatMap (r.usageBelow s who (withUsageWord words node))
      else [] := by
  have hbelow : (node.children.flatMap fun child =>
      if id < child ∧ child < r.size then r.usageBelow s who (withUsageWord words node) child
      else []) = node.children.flatMap (r.usageBelow s who (withUsageWord words node)) := by
    refine List.flatMap_congr fun child hchild => if_pos (child_lt hr ?_)
    rwa [children_eq h]
  rw [usageBelow, h]
  simp only [dite_eq_ite, hbelow]

/-! ### Registries that steps have built -/

theorem WellFormed.navigable (hr : r.WellFormed) : r.Navigable where
  path h :=
    have hclimb := climb_path hr h
    ⟨hclimb, hclimb.length_eq hr h, hclimb.exists_root hr⟩
  descend := wellFounded_child hr
  child h :=
    have ⟨child, hchild, _⟩ := node?_of_mem_children hr h
    ⟨child, hchild⟩
  walk hd h :=
    have ⟨hlast, hle⟩ := hd.add_length_le hr h
    ⟨hlast, hle, fun _ hc =>
      have ⟨child, hchild, _⟩ := node?_of_mem_children hr hc
      ⟨child, hchild⟩⟩
  usage h := usageBelow_eq hr h

/-- **The arena of a registry that steps have built**, failing ones among them: its nodes are a
tree told three times over, arguments have the metadata of the commands and keywords they belong
to, and ways up and down end without leaving it. -/
theorem ofSteps_arena (steps : List (BuildStep H)) :
    (ofSteps steps).Arena (origins steps) ∧ (ofSteps steps).Navigable := by
  have hr : (ofSteps steps).WellFormed := Reachable.wellFormed ⟨steps, rfl⟩
  have hi := ofSteps_inherits steps
  refine ⟨?_, hr.navigable⟩
  constructor
  case parent_lt => exact fun h hp => (hr.parent h hp).1
  case depth_eq_zero => exact fun h => hr.depth_eq_zero_iff h
  case depth_succ => exact fun h hp => (hr.parent h hp).2
  case sorted => exact fun h => hr.sorted h
  case child_lt =>
    intro id node h c hc
    obtain ⟨child, hchild, -⟩ := (hr.mem_children h c).mp hc
    exact node?_lt hchild
  case count => exact fun h _ _ hq => hr.count_children h hq
  case root_argument => exact fun h hp => hr.root_argument h hp
  case length_origins => exact hi.length_eq
  case inherited =>
    intro id node h _
    obtain ⟨k, owner, hk, howner, hdata⟩ := hi.exists_keyword hr h
    exact ⟨k, owner, hk, by simpa using List.find?_some hk, howner, hdata⟩

end Registry

end CommandTree
