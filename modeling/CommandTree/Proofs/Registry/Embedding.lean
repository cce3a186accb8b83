import CommandTree.Proofs.Registry.Schema

/-!
# Registries within registries

One registry may stand within another one: its nodes are found there in the same order,
with others between them, and each has there the same word, the same metadata and
handler, and corresponding parents and children.  What is read off paths is then the same
in both.  If all that the larger registry has besides are whole commands that a certain
player is not shown, that player sees no difference at all.

## Main definitions

* `Node.moved` — a node with other positions.
* `CommandData.isHidden` — whether a player is not shown a command.
* `Registry.Within` — one registry within another one.
* `Registry.Embeds` — the same, and the other commands are hidden.

## Main results

* `Within.path_eq`, `Within.schema_eq` — paths correspond.
* `Within.push`, `Within.setHandler` — what is declared in both registries.
* `Embeds.push_hidden`, `Embeds.setHandler_hidden` — what is declared in the larger one only.
-/

namespace CommandTree

variable {H : Host}

/-- The node with its parent and children renamed. -/
def Node.moved (f : NodeId → NodeId) (node : Node H) : Node H :=
  { node with parent := node.parent.map f, children := node.children.map f }

/-- Whether a player is not shown a command. -/
def CommandData.isHidden (d : CommandData H) (s : H.State) (who : H.Who) : Bool :=
  !(d.permits s who && (!d.opOnly || H.isOp s who))

namespace Registry

variable {m : H.State} {who : H.Who} {r r' : Registry H} {f g : NodeId → NodeId}

/-! ### Nodes that correspond -/

/-- The position `f id` of the second registry corresponds to `id` in the first one. -/
structure Within (r : Registry H) (f : NodeId → NodeId) (r' : Registry H) : Prop where
  source : r.WellFormed
  target : r'.WellFormed
  /-- The order of the nodes is kept. -/
  mono : ∀ {i j}, i < j → j < r.size → f i < f j
  /-- A node is declared as the one it corresponds to, with the same handler. -/
  node : ∀ {id node}, r.node? id = some node → r'.node? (f id) = some (node.moved f)

/-- The position `f id` of the second registry corresponds to `id` in the first one.  What
corresponds to nothing belongs to commands that the player is not shown. -/
structure Embeds (m : H.State) (who : H.Who) (r : Registry H) (f : NodeId → NodeId)
    (r' : Registry H) : Prop where
  source : r.WellFormed
  target : r'.WellFormed
  /-- The order of the nodes is kept. -/
  mono : ∀ {i j}, i < j → j < r.size → f i < f j
  /-- A node is declared as the one it corresponds to, with the same handler. -/
  node : ∀ {id node}, r.node? id = some node → r'.node? (f id) = some (node.moved f)
  /-- The other commands are hidden. -/
  hidden : ∀ {id node}, r'.node? id = some node → (∀ j < r.size, f j ≠ id) → node.depth = 0 →
    node.data.isHidden m who = true

theorem embeds_empty (m : H.State) (who : H.Who) (f : NodeId → NodeId) :
    (empty : Registry H).Embeds m who f empty where
  source := wellFormed_empty
  target := wellFormed_empty
  mono _ hj := absurd hj (Nat.not_lt_zero _)
  node h := by simp at h
  hidden h := by simp at h

theorem Embeds.within (h : r.Embeds m who f r') : r.Within f r' :=
  ⟨h.source, h.target, h.mono, h.node⟩

/-- Anything holds the registry without nodes. -/
theorem within_empty (hr' : r'.WellFormed) (f : NodeId → NodeId) :
    (empty : Registry H).Within f r' where
  source := wellFormed_empty
  target := hr'
  mono _ hj := absurd hj (Nat.not_lt_zero _)
  node h := by simp at h

theorem Within.lt (h : r.Within f r') {id : NodeId} (hid : id < r.size) :
    f id < r'.size := by
  obtain ⟨node, hnode⟩ := exists_node?_of_lt hid
  exact node?_lt (h.node hnode)

theorem Within.inj (h : r.Within f r') {i j : NodeId} (hi : i < r.size) (hj : j < r.size)
    (heq : f i = f j) : i = j := by
  rcases Nat.lt_trichotomy i j with hlt | rfl | hlt
  · exact absurd heq (Nat.ne_of_lt (h.mono hlt hj))
  · rfl
  · exact absurd heq.symm (Nat.ne_of_lt (h.mono hlt hi))

/-- In a registry that is well-formed all that a node refers to is a node, so only the names of
nodes matter. -/
theorem WellFormed.moved_congr (hr : r.WellFormed) (hfg : ∀ j < r.size, f j = g j) {id : NodeId}
    {node : Node H} (h : r.node? id = some node) : node.moved f = node.moved g := by
  have hparent : node.parent.map f = node.parent.map g := by
    cases hp : node.parent with
    | none => rfl
    | some p =>
      obtain ⟨-, above, habove, -⟩ := hr.parent h hp
      rw [Option.map_some, Option.map_some, hfg p (node?_lt habove)]
  have hchildren : node.children.map f = node.children.map g := by
    refine List.map_congr_left fun c hc => hfg c ?_
    obtain ⟨child, hchild, -⟩ := (hr.mem_children h c).mp hc
    exact node?_lt hchild
  rw [Node.moved, Node.moved, hparent, hchildren]

theorem Embeds.congr (h : r.Embeds m who f r') (hfg : ∀ j < r.size, f j = g j) :
    r.Embeds m who g r' where
  source := h.source
  target := h.target
  mono hij hj := by
    rw [← hfg _ (Nat.lt_trans hij hj), ← hfg _ hj]
    exact h.mono hij hj
  node hnode := by
    rw [← hfg _ (node?_lt hnode), ← h.source.moved_congr hfg hnode]
    exact h.node hnode
  hidden hnode hnew := h.hidden hnode fun j hj => hfg j hj ▸ hnew j hj

/-! ### Paths -/

/-- Paths to corresponding nodes correspond. -/
theorem Within.path_eq (h : r.Within f r') {id : NodeId} {node : Node H}
    (hnode : r.node? id = some node) : r'.path (f id) = (r.path id).map f := by
  induction id using Nat.strong_induction_on generalizing node with
  | _ id ih =>
    have hnode' := h.node hnode
    cases hp : node.parent with
    | none =>
      have hp' : (node.moved f).parent = none := by rw [Node.moved, hp, Option.map_none]
      rw [path_root hnode hp, path_root hnode' hp', List.map_singleton]
    | some p =>
      obtain ⟨hlt, above, habove, -⟩ := h.source.parent hnode hp
      have hp' : (node.moved f).parent = some (f p) := by rw [Node.moved, hp, Option.map_some]
      rw [path_child h.source hnode hp, path_child h.target hnode' hp', ih p hlt habove,
        List.map_append, List.map_singleton]

theorem Within.schema_eq (h : r.Within f r') {id : NodeId} {node : Node H}
    (hnode : r.node? id = some node) : r'.schema (f id) = r.schema id := by
  rw [schema, schema, h.path_eq hnode, List.filterMap_map]
  refine List.filterMap_congr fun j hj => ?_
  obtain ⟨above, habove⟩ := exists_node?_of_mem_path h.source hnode j hj
  rw [Function.comp_apply, valueKind?_eq habove, valueKind?_eq (h.node habove)]
  rfl

/-! ### Moves in both registries -/

theorem Within.depthBelow_eq (h : r.Within f r') {parent : Option NodeId}
    (hparent : ∀ p, parent = some p → ∃ above, r.node? p = some above) :
    r'.depthBelow (parent.map f) = r.depthBelow parent := by
  cases parent with
  | none => rfl
  | some p =>
    obtain ⟨above, habove⟩ := hparent p rfl
    rw [Option.map_some, depthBelow_some habove, depthBelow_some (h.node habove)]
    rfl

/-- **The same node declared in both registries.** -/
theorem Within.push (h : r.Within f r') (hend : f r.size = r'.size)
    {parent : Option NodeId} (hparent : ∀ p, parent = some p → ∃ above, r.node? p = some above)
    {data : CommandData H} {a : Argument H} (hroot : parent = none → a = ⟨data.name, .literal⟩) :
    (r.push parent data a).1.Within f (r'.push (parent.map f) data a).1 where
  source := h.source.push hparent hroot
  target := by
    refine h.target.push ?_ fun hnone => hroot (Option.map_eq_none_iff.mp hnone)
    intro p' hp'
    obtain ⟨p, hp, rfl⟩ := Option.map_eq_some_iff.mp hp'
    obtain ⟨above, habove⟩ := hparent p hp
    exact ⟨_, h.node habove⟩
  mono {i j} hij hj := by
    rw [size_push] at hj
    rcases Nat.lt_or_eq_of_le (Nat.le_of_lt_succ hj) with hlt | rfl
    · exact h.mono hij hlt
    · rw [hend]
      exact h.lt hij
  node {id node} hnode := by
    rw [node?_push] at hnode ⊢
    by_cases hid : id = r.size
    · rw [if_pos hid, Option.some.injEq] at hnode
      rw [if_pos (hid ▸ hend), h.depthBelow_eq hparent, ← hnode]
      rfl
    · rw [if_neg hid] at hnode
      obtain ⟨old, hold, hnode⟩ := Option.map_eq_some_iff.mp hnode
      have hlt := node?_lt hold
      -- Just the corresponding parent adopts the corresponding child.
      have hadopts : parent.map f = some (f id) ↔ parent = some id := by
        constructor
        · intro hp
          obtain ⟨p, rfl, heq⟩ := Option.map_eq_some_iff.mp hp
          obtain ⟨above, habove⟩ := hparent p rfl
          rw [h.inj (node?_lt habove) hlt heq]
        · rintro rfl
          rfl
      rw [if_neg (Nat.ne_of_lt (h.lt hlt)), h.node hold, Option.map_some, ← hnode]
      by_cases hp : parent = some id
      · rw [if_pos hp, if_pos (hadopts.mpr hp)]
        simp [Node.moved, Node.adopt, hend]
      · rw [if_neg hp, if_neg (mt hadopts.mp hp)]

/-- The same handler on corresponding nodes. -/
theorem Within.setHandler (h : r.Within f r') {id : NodeId} (hid : id < r.size)
    (handler : Handler H) :
    (r.setHandler id handler).Within f (r'.setHandler (f id) handler) where
  source := h.source.setHandler id handler
  target := h.target.setHandler (f id) handler
  mono hij hj := h.mono hij (size_setHandler r id handler ▸ hj)
  node {j node} hnode := by
    rw [node?_setHandler] at hnode ⊢
    obtain ⟨old, hold, hnode⟩ := Option.map_eq_some_iff.mp hnode
    have hsame : f id = f j ↔ id = j :=
      ⟨fun heq => h.inj hid (node?_lt hold) heq, fun heq => heq ▸ rfl⟩
    rw [h.node hold, Option.map_some, ← hnode]
    by_cases hj : id = j
    · rw [if_pos hj, if_pos (hsame.mpr hj)]
      rfl
    · rw [if_neg hj, if_neg (mt hsame.mp hj)]

/-! ### Moves in the second registry only -/

/-- **A node declared in the second registry only**, below nothing that corresponds to a node of the
first, and hidden if it is a command. -/
theorem Embeds.push_hidden (h : r.Embeds m who f r') {parent : Option NodeId}
    (hparent : ∀ p, parent = some p →
      (∃ above, r'.node? p = some above) ∧ ∀ j < r.size, f j ≠ p)
    {data : CommandData H} {a : Argument H} (hroot : parent = none → a = ⟨data.name, .literal⟩)
    (hdata : parent = none → data.isHidden m who = true) :
    r.Embeds m who f (r'.push parent data a).1 where
  source := h.source
  target := h.target.push (fun p hp => (hparent p hp).1) hroot
  mono := h.mono
  node {id node} hnode := by
    have hlt := node?_lt hnode
    have hother : parent ≠ some (f id) := fun hp => (hparent _ hp).2 id hlt rfl
    rw [node?_push, if_neg (Nat.ne_of_lt (h.within.lt hlt)), h.node hnode, Option.map_some,
      if_neg hother]
  hidden {id node} hnode hnew hdepth := by
    rcases node?_push_cases hnode with ⟨rfl, rfl⟩ | ⟨old, hold, hs, -, -⟩
    · cases parent with
      | none => exact hdata rfl
      | some p =>
        obtain ⟨⟨above, habove⟩, -⟩ := hparent p rfl
        rw [depthBelow_some habove] at hdepth
        cases hdepth
    · rw [hs.data]
      exact h.hidden hold hnew (hs.depth ▸ hdepth)

theorem Embeds.setHandler_hidden (h : r.Embeds m who f r') {id : NodeId}
    (hid : ∀ j < r.size, f j ≠ id) (handler : Handler H) :
    r.Embeds m who f (r'.setHandler id handler) where
  source := h.source
  target := h.target.setHandler id handler
  mono := h.mono
  node {j node} hnode := by
    rw [node?_setHandler, h.node hnode, Option.map_some,
      if_neg fun heq => hid j (node?_lt hnode) heq.symm]
  hidden {j node} hnode hnew hdepth := by
    obtain ⟨old, hold, hs, -, -⟩ := node?_setHandler_cases hnode
    rw [hs.data]
    exact h.hidden hold hnew (hs.depth ▸ hdepth)

end Registry

end CommandTree
