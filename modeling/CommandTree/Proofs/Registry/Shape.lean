import CommandTree.Proofs.Registry.Growth
import Mathlib.Data.Nat.Init

/-!
# The shape of a registry

A registry tells three times over how its nodes hang together: by parents, by lists
of children, and by depths.  In every registry that can be built the three agree,
and what a node is declared with never changes again, so that the path to a node
stays the same for good.

## Main definitions

* `Registry.Extends` — every node is still there, declared as before.
* `Registry.WellFormed` — parents, children and depths agree.

## Main results

* `Grows.extends` — nothing that was declared is ever taken back.
* `Reachable.wellFormed` — in registries that can be built the three agree.
* `path_root`, `path_child` — the path to a node, from the path to its parent.
* `path_eq_of_extends` — paths do not change.
-/

namespace CommandTree

variable {H : Host}

/-- The second node is declared as the first one: the same word at the same place with the same
metadata. -/
structure Node.SameDeclaration (old new : Node H) : Prop where
  /-- The same metadata. -/
  data : new.data = old.data
  /-- The same word. -/
  argument : new.argument = old.argument
  /-- The same depth. -/
  depth : new.depth = old.depth
  /-- The same parent. -/
  parent : new.parent = old.parent

theorem Node.SameDeclaration.refl (node : Node H) : node.SameDeclaration node :=
  ⟨rfl, rfl, rfl, rfl⟩

theorem Node.SameDeclaration.trans {a b c : Node H} (hab : a.SameDeclaration b)
    (hbc : b.SameDeclaration c) : a.SameDeclaration c :=
  ⟨hbc.data.trans hab.data, hbc.argument.trans hab.argument, hbc.depth.trans hab.depth,
    hbc.parent.trans hab.parent⟩

theorem Node.sameDeclaration_adopt (node : Node H) (child : NodeId) :
    node.SameDeclaration (node.adopt child) := ⟨rfl, rfl, rfl, rfl⟩

namespace Registry

/-! ### Registries that extend others -/

/-- Every node of the first registry is in the second one, declared as before. -/
def Extends (r r' : Registry H) : Prop :=
  ∀ ⦃id node⦄, r.node? id = some node →
    ∃ node', r'.node? id = some node' ∧ node.SameDeclaration node'

theorem Extends.refl (r : Registry H) : r.Extends r :=
  fun _ node h => ⟨node, h, .refl node⟩

theorem Extends.trans {a b c : Registry H} (hab : a.Extends b) (hbc : b.Extends c) :
    a.Extends c := by
  intro id node h
  obtain ⟨node₁, h₁, hs₁⟩ := hab h
  obtain ⟨node₂, h₂, hs₂⟩ := hbc h₁
  exact ⟨node₂, h₂, hs₁.trans hs₂⟩

theorem extends_push (r : Registry H) (parent : Option NodeId) (data : CommandData H)
    (a : Argument H) : r.Extends (r.push parent data a).1 := by
  intro id node h
  have hne : id ≠ r.size := Nat.ne_of_lt (node?_lt h)
  rw [node?_push, if_neg hne, h]
  by_cases hp : parent = some id
  · exact ⟨node.adopt r.size, by simp [hp], node.sameDeclaration_adopt _⟩
  · exact ⟨node, by simp [hp], .refl node⟩

theorem extends_setHandler (r : Registry H) (id : NodeId) (handler : Handler H) :
    r.Extends (r.setHandler id handler) := by
  intro j node h
  rw [node?_setHandler, h]
  by_cases hj : id = j
  · exact ⟨{ node with handler := some handler }, by simp [hj], ⟨rfl, rfl, rfl, rfl⟩⟩
  · exact ⟨node, by simp [hj], .refl node⟩

theorem Move.extends {r r' : Registry H} (h : Move r r') : r.Extends r' := by
  cases h with
  | command data _ => exact extends_push r _ _ _
  | argument a _ => exact extends_push r _ _ _
  | literal data _ => exact extends_push r _ _ _
  | attach handler _ _ => exact extends_setHandler r _ _

/-- **Nothing that was declared is ever taken back.** -/
theorem Grows.extends {r r' : Registry H} (h : Grows r r') : r.Extends r' := by
  induction h with
  | refl => exact .refl r
  | tail _ hm ih => exact ih.trans hm.extends

theorem Extends.size_le {r r' : Registry H} (hext : r.Extends r') : r.size ≤ r'.size := by
  refine Nat.le_of_not_lt fun hlt => ?_
  obtain ⟨node, hnode⟩ := exists_node?_of_lt hlt
  obtain ⟨node', hnode', -⟩ := hext hnode
  exact Nat.lt_irrefl _ (node?_lt hnode')

/-! ### Parents, children and depths agree -/

/-- The three ways in which a registry tells how its nodes hang together agree. -/
structure WellFormed (r : Registry H) : Prop where
  /-- A node without a parent is at depth zero. -/
  depth_root : ∀ {id node}, r.node? id = some node → node.parent = none → node.depth = 0
  /-- A parent stands before its child, one step nearer to the root. -/
  parent : ∀ {id node p}, r.node? id = some node → node.parent = some p →
    p < id ∧ ∃ above, r.node? p = some above ∧ node.depth = above.depth + 1
  /-- The children of a node are the nodes whose parent it is. -/
  mem_children : ∀ {id node}, r.node? id = some node → ∀ c, c ∈ node.children ↔
    ∃ child, r.node? c = some child ∧ child.parent = some id
  /-- Children are listed in order of declaration, none of them twice. -/
  sorted : ∀ {id node}, r.node? id = some node → node.children.Pairwise (· < ·)
  /-- A command is reached by the word it is named by. -/
  root_argument : ∀ {id node}, r.node? id = some node → node.parent = none →
    node.argument = ⟨node.data.name, .literal⟩

theorem wellFormed_empty : (empty : Registry H).WellFormed := by
  constructor <;> intros <;> simp_all

/-- What is known of a node after a push: it is the new node, or an old one whose children are
those it had and perhaps the new one. -/
theorem node?_push_cases {r : Registry H} {parent : Option NodeId} {data : CommandData H}
    {a : Argument H} {id : NodeId} {node : Node H}
    (h : (r.push parent data a).1.node? id = some node) :
    (id = r.size ∧ node = ⟨data, a, r.depthBelow parent, parent, [], none⟩) ∨
      ∃ old, r.node? id = some old ∧ old.SameDeclaration node ∧ node.handler = old.handler ∧
        node.children = if parent = some id then old.children ++ [r.size] else old.children := by
  rw [node?_push] at h
  by_cases hid : id = r.size
  · rw [if_pos hid] at h
    exact .inl ⟨hid, (Option.some.inj h).symm⟩
  · rw [if_neg hid] at h
    obtain ⟨old, hold, rfl⟩ := Option.map_eq_some_iff.mp h
    refine .inr ⟨old, hold, ?_⟩
    by_cases hp : parent = some id
    · rw [if_pos hp, if_pos hp]
      exact ⟨old.sameDeclaration_adopt _, rfl, rfl⟩
    · rw [if_neg hp, if_neg hp]
      exact ⟨.refl old, rfl, rfl⟩

theorem depthBelow_none (r : Registry H) : r.depthBelow none = 0 := rfl

theorem depthBelow_some {r : Registry H} {p : NodeId} {above : Node H}
    (h : r.node? p = some above) : r.depthBelow (some p) = above.depth + 1 := by
  simp [depthBelow, h]

/-- What a push does to the relation between parents and children: the new node is a child of its
parent, and the others are children of whom they were. -/
theorem exists_child_push {r : Registry H} {parent : Option NodeId} {data : CommandData H}
    {a : Argument H} {c q : NodeId} :
    (∃ child, (r.push parent data a).1.node? c = some child ∧ child.parent = some q) ↔
      (c = r.size ∧ parent = some q) ∨
        ∃ child, r.node? c = some child ∧ child.parent = some q := by
  constructor
  · rintro ⟨child, hc, hq⟩
    rcases node?_push_cases hc with ⟨rfl, rfl⟩ | ⟨old, hold, hs, -, -⟩
    · exact .inl ⟨rfl, hq⟩
    · exact .inr ⟨old, hold, hs.parent ▸ hq⟩
  · rintro (⟨rfl, hq⟩ | ⟨child, hc, hq⟩)
    · exact ⟨_, by rw [node?_push, if_pos rfl], hq⟩
    · obtain ⟨child', hc', hs⟩ := extends_push r parent data a hc
      exact ⟨child', hc', hs.parent.trans hq⟩

/-- Pushing a node keeps the shape if its parent is there, and if it is reached by its own name
when it has none. -/
theorem WellFormed.push {r : Registry H} (hr : r.WellFormed) {parent : Option NodeId}
    {data : CommandData H} {a : Argument H}
    (hparent : ∀ p, parent = some p → ∃ above, r.node? p = some above)
    (hroot : parent = none → a = ⟨data.name, .literal⟩) :
    (r.push parent data a).1.WellFormed := by
  have hext := extends_push r parent data a
  constructor
  case depth_root =>
    intro id node h hp
    rcases node?_push_cases h with ⟨-, rfl⟩ | ⟨old, hold, hs, -, -⟩
    · subst hp; exact depthBelow_none r
    · rw [hs.depth]; exact hr.depth_root hold (hs.parent ▸ hp)
  case parent =>
    intro id node p h hp
    rcases node?_push_cases h with ⟨rfl, rfl⟩ | ⟨old, hold, hs, -, -⟩
    · obtain ⟨above, habove⟩ := hparent p hp
      obtain ⟨above', habove', hs'⟩ := hext habove
      subst hp
      exact ⟨node?_lt habove, above', habove', by rw [hs'.depth, depthBelow_some habove]⟩
    · obtain ⟨hlt, above, habove, hd⟩ := hr.parent hold (hs.parent ▸ hp)
      obtain ⟨above', habove', hs'⟩ := hext habove
      exact ⟨hlt, above', habove', by rw [hs.depth, hs'.depth, hd]⟩
  case mem_children =>
    intro id node h c
    rw [exists_child_push]
    rcases node?_push_cases h with ⟨rfl, rfl⟩ | ⟨old, hold, hs, -, hchildren⟩
    · -- The new node has no children, and no node can have it for a parent yet.
      constructor
      · intro hc; cases hc
      · rintro (⟨rfl, hq⟩ | ⟨child, hc, hq⟩)
        · obtain ⟨above, habove⟩ := hparent _ hq
          exact absurd (node?_lt habove) (Nat.lt_irrefl _)
        · obtain ⟨-, above, habove, -⟩ := hr.parent hc hq
          exact absurd (node?_lt habove) (Nat.lt_irrefl _)
    · rw [hchildren, ← hr.mem_children hold]
      by_cases hp : parent = some id
      · simp [hp, or_comm]
      · simp [hp]
  case sorted =>
    intro id node h
    rcases node?_push_cases h with ⟨-, rfl⟩ | ⟨old, hold, -, -, hchildren⟩
    · exact .nil
    · rw [hchildren]
      by_cases hp : parent = some id
      · rw [if_pos hp, List.pairwise_append]
        refine ⟨hr.sorted hold, List.pairwise_singleton _ _, ?_⟩
        intro c hc d hd
        obtain ⟨child, hchild, -⟩ := (hr.mem_children hold c).mp hc
        rw [List.mem_singleton.mp hd]
        exact node?_lt hchild
      · rw [if_neg hp]
        exact hr.sorted hold
  case root_argument =>
    intro id node h hp
    rcases node?_push_cases h with ⟨-, rfl⟩ | ⟨old, hold, hs, -, -⟩
    · exact hroot hp
    · rw [hs.argument, hs.data]
      exact hr.root_argument hold (hs.parent ▸ hp)

/-- What is known of a node after a handler was put somewhere: only its handler may be new. -/
theorem node?_setHandler_cases {r : Registry H} {id j : NodeId} {handler : Handler H}
    {node : Node H} (h : (r.setHandler id handler).node? j = some node) :
    ∃ old, r.node? j = some old ∧ old.SameDeclaration node ∧ node.children = old.children ∧
      node.handler = if id = j then some handler else old.handler := by
  rw [node?_setHandler] at h
  obtain ⟨old, hold, rfl⟩ := Option.map_eq_some_iff.mp h
  refine ⟨old, hold, ?_⟩
  by_cases hj : id = j
  · rw [if_pos hj, if_pos hj]
    exact ⟨⟨rfl, rfl, rfl, rfl⟩, rfl, rfl⟩
  · rw [if_neg hj, if_neg hj]
    exact ⟨.refl old, rfl, rfl⟩

/-- To attach a handler declares no node, whether it fits or not. -/
theorem exists_node?_of_attach {r : Registry H} {id j : NodeId} {handler : Handler H}
    {node : Node H} (h : (r.attach id handler).registry.node? j = some node) :
    ∃ old, r.node? j = some old ∧ old.SameDeclaration node := by
  unfold attach at h
  cases hid : r.node? id with
  | none =>
    rw [hid] at h
    exact ⟨node, h, .refl node⟩
  | some target =>
    rw [hid] at h
    by_cases hfit : r.schema id = handler.params
    · simp only [hfit, if_true] at h
      obtain ⟨old, hold, hs, -, -⟩ := node?_setHandler_cases h
      exact ⟨old, hold, hs⟩
    · simp only [hfit, if_false] at h
      exact ⟨node, h, .refl node⟩

/-- Handlers have nothing to do with the shape. -/
theorem WellFormed.setHandler {r : Registry H} (hr : r.WellFormed) (id : NodeId)
    (handler : Handler H) : (r.setHandler id handler).WellFormed := by
  have hext := extends_setHandler r id handler
  constructor
  case depth_root =>
    intro j node h hp
    obtain ⟨old, hold, hs, -, -⟩ := node?_setHandler_cases h
    rw [hs.depth]
    exact hr.depth_root hold (hs.parent ▸ hp)
  case parent =>
    intro j node p h hp
    obtain ⟨old, hold, hs, -, -⟩ := node?_setHandler_cases h
    obtain ⟨hlt, above, habove, hd⟩ := hr.parent hold (hs.parent ▸ hp)
    obtain ⟨above', habove', hs'⟩ := hext habove
    exact ⟨hlt, above', habove', by rw [hs.depth, hs'.depth, hd]⟩
  case mem_children =>
    intro j node h c
    obtain ⟨old, hold, -, hchildren, -⟩ := node?_setHandler_cases h
    rw [hchildren, hr.mem_children hold]
    -- A node has the same parent before and after.
    constructor
    · rintro ⟨child, hc, hp⟩
      obtain ⟨child', hc', hs⟩ := hext hc
      exact ⟨child', hc', hs.parent.trans hp⟩
    · rintro ⟨child, hc, hp⟩
      obtain ⟨child', hc', hs, -, -⟩ := node?_setHandler_cases hc
      exact ⟨child', hc', hs.parent ▸ hp⟩
  case sorted =>
    intro j node h
    obtain ⟨old, hold, -, hchildren, -⟩ := node?_setHandler_cases h
    rw [hchildren]
    exact hr.sorted hold
  case root_argument =>
    intro j node h hp
    obtain ⟨old, hold, hs, -, -⟩ := node?_setHandler_cases h
    rw [hs.argument, hs.data]
    exact hr.root_argument hold (hs.parent ▸ hp)

/-- Every move keeps the shape. -/
theorem WellFormed.move {r r' : Registry H} (hr : r.WellFormed) (h : Move r r') :
    r'.WellFormed := by
  cases h with
  | command data _ => exact hr.push (by simp) (fun _ => rfl)
  | argument a hp => exact hr.push (by rintro p ⟨⟩; exact ⟨_, hp⟩) (by simp)
  | literal data hp => exact hr.push (by rintro p ⟨⟩; exact ⟨_, hp⟩) (by simp)
  | attach handler _ _ => exact hr.setHandler _ handler

/-- **In every registry that can be built, parents, children and depths agree.** -/
theorem Reachable.wellFormed {r : Registry H} (hr : r.Reachable) : r.WellFormed :=
  hr.induction wellFormed_empty fun _ _ hr hm => hr.move hm

/-- A node at depth zero has no parent. -/
theorem WellFormed.parent_eq_none {r : Registry H} (hr : r.WellFormed) {id : NodeId} {node : Node H}
    (h : r.node? id = some node) (hdepth : node.depth = 0) : node.parent = none := by
  cases hp : node.parent with
  | none => rfl
  | some p =>
    obtain ⟨-, above, -, hd⟩ := hr.parent h hp
    exact absurd (hd.symm.trans hdepth) (Nat.succ_ne_zero _)

variable {r r' : Registry H} {id p : NodeId} {node : Node H}

theorem children_eq (h : r.node? id = some node) : r.children id = node.children := by
  rw [children, h]
  rfl

/-! ### Paths -/

/-- The path to the root of a command is that root. -/
theorem path_root (h : r.node? id = some node) (hp : node.parent = none) : r.path id = [id] := by
  rw [path, h, Option.bind_some, hp]

/-- The path to a node below another one goes on from the path to that one. -/
theorem path_child (hr : r.WellFormed) (h : r.node? id = some node) (hp : node.parent = some p) :
    r.path id = r.path p ++ [id] := by
  rw [path, h, Option.bind_some, hp]
  simp only [(hr.parent h hp).1, if_true]

/-- A path ends with its node. -/
theorem exists_path_eq (r : Registry H) (id : NodeId) : ∃ above, r.path id = above ++ [id] := by
  rw [path]
  split
  · split
    · exact ⟨_, rfl⟩
    · exact ⟨[], rfl⟩
  · exact ⟨[], rfl⟩

theorem mem_path (r : Registry H) (id : NodeId) : id ∈ r.path id := by
  obtain ⟨above, habove⟩ := exists_path_eq r id
  rw [habove]
  exact List.mem_append_right _ List.mem_cons_self

/-- A path runs through nodes of the registry only. -/
theorem exists_node?_of_mem_path (hr : r.WellFormed) (h : r.node? id = some node) :
    ∀ j ∈ r.path id, ∃ above, r.node? j = some above := by
  induction id using Nat.strong_induction_on generalizing node with
  | _ id ih =>
    intro j hj
    cases hp : node.parent with
    | none =>
      -- The path is the node alone.
      rw [path_root h hp, List.mem_singleton] at hj
      exact ⟨node, hj ▸ h⟩
    | some p =>
      obtain ⟨hlt, above, habove, -⟩ := hr.parent h hp
      rw [path_child hr h hp, List.mem_append, List.mem_singleton] at hj
      rcases hj with hj | rfl
      · exact ih p hlt habove j hj
      · exact ⟨node, h⟩

/-- A path does not change when the registry grows. -/
theorem path_eq_of_extends (hr : r.WellFormed) (hr' : r'.WellFormed) (hext : r.Extends r')
    (h : r.node? id = some node) : r'.path id = r.path id := by
  induction id using Nat.strong_induction_on generalizing node with
  | _ id ih =>
    obtain ⟨node', h', hs⟩ := hext h
    cases hp : node.parent with
    | none => rw [path_root h hp, path_root h' (hs.parent.trans hp)]
    | some p =>
      obtain ⟨hlt, above, habove, -⟩ := hr.parent h hp
      -- The parent stands before the node, and its own path is known not to change.
      rw [path_child hr h hp, path_child hr' h' (hs.parent.trans hp), ih p hlt habove]

end Registry

end CommandTree
