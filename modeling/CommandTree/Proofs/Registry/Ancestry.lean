import CommandTree.Proofs.Registry.Shape

/-!
# Where the metadata of a node come from

A command and a keyword bring metadata of their own; an argument shares those of its
parent.  So the metadata of a node are those of the nearest command or keyword at or
above it.  Which nodes are commands and keywords cannot be read off the registry, for
an argument may look like a keyword, but it is known from the steps that built it.

Going up by parents from any node comes to a root, after as many nodes as the node is
deep.

## Main definitions

* `Registry.Inherits` — the origins of the nodes explain their metadata.
* `Registry.nearestKeyword?` — the nearest command or keyword at or above a node.
* `Registry.Climb` — going up by parents.

## Main results

* `ofSteps_inherits` — the steps that built a registry explain its metadata.
* `Inherits.exists_keyword` — every node has the metadata of the nearest keyword.
* `climb_path` — going up comes to an end, and the path to a node is the way.
* `Climb.length_eq`, `Climb.exists_root` — how long the way is, and where it ends.
-/

namespace CommandTree

variable {H : Host}

namespace Registry

/-! ### Metadata -/

/-- There is one origin for each node, and arguments have the metadata of their parents. -/
structure Inherits (r : Registry H) (made : List Origin) : Prop where
  /-- One origin for each node. -/
  length_eq : made.length = r.size
  /-- An argument is below another node and shares its metadata. -/
  argument : ∀ {id node}, r.node? id = some node → made[id]? = some .argument →
    ∃ p above, node.parent = some p ∧ r.node? p = some above ∧ node.data = above.data

variable {r : Registry H} {made : List Origin} {id : NodeId} {node : Node H}

theorem inherits_empty : (empty : Registry H).Inherits [] := by
  constructor
  · rfl
  · intro id node h
    simp at h

theorem Inherits.push (hi : r.Inherits made) {parent : Option NodeId} {data : CommandData H}
    {a : Argument H} (o : Origin)
    (hnew : o = .argument →
      ∃ p above, parent = some p ∧ r.node? p = some above ∧ data = above.data) :
    (r.push parent data a).1.Inherits (made ++ [o]) := by
  have hext := extends_push r parent data a
  constructor
  · rw [size_push, List.length_append, hi.length_eq, List.length_singleton]
  · intro id node h ho
    -- A node that was there before, here the parent, still has its metadata.
    have later : ∀ p above, r.node? p = some above →
        ∃ above', (r.push parent data a).1.node? p = some above' ∧ above.data = above'.data := by
      intro p above habove
      obtain ⟨above', habove', hs⟩ := hext habove
      exact ⟨above', habove', hs.data.symm⟩
    rcases node?_push_cases h with ⟨rfl, rfl⟩ | ⟨old, hold, hs, -, -⟩
    · rw [← hi.length_eq, List.getElem?_concat_length, Option.some.injEq] at ho
      obtain ⟨p, above, hp, habove, hdata⟩ := hnew ho
      obtain ⟨above', habove', heq⟩ := later p above habove
      exact ⟨p, above', hp, habove', hdata.trans heq⟩
    · have hlt : id < made.length := hi.length_eq ▸ node?_lt hold
      rw [List.getElem?_append_left hlt] at ho
      obtain ⟨p, above, hp, habove, hdata⟩ := hi.argument hold ho
      obtain ⟨above', habove', heq⟩ := later p above habove
      exact ⟨p, above', hs.parent.trans hp, habove', (hs.data.trans hdata).trans heq⟩

theorem Inherits.setHandler (hi : r.Inherits made) (id : NodeId) (handler : Handler H) :
    (r.setHandler id handler).Inherits made := by
  constructor
  · rw [size_setHandler, hi.length_eq]
  · intro j node h ho
    obtain ⟨old, hold, hs, -, -⟩ := node?_setHandler_cases h
    obtain ⟨p, above, hp, habove, hdata⟩ := hi.argument hold ho
    obtain ⟨above', habove', hs'⟩ := extends_setHandler r id handler habove
    exact ⟨p, above', hs.parent.trans hp, habove', by rw [hs.data, hdata, hs'.data]⟩

theorem kept_inherits : Kept (Inherits (H := H)) where
  command _ hi _ := hi.push .keyword nofun
  argument _ hi hparent := hi.push .argument fun _ => ⟨_, _, rfl, hparent, rfl⟩
  literal _ hi _ := hi.push .keyword nofun
  attach handler hi _ _ := hi.setHandler _ handler

/-- **The steps that built a registry explain the metadata of its nodes.** -/
theorem ofSteps_inherits (steps : List (BuildStep H)) :
    (ofSteps steps).Inherits (origins steps) :=
  ofSteps_keeps kept_inherits inherits_empty steps

/-- The nearest node at or above a node that was declared as a command or a keyword. -/
def nearestKeyword? (r : Registry H) (made : List Origin) (id : NodeId) : Option NodeId :=
  (r.path id).reverse.find? fun j => made[j]? = some .keyword

/-- **Every node has the metadata of the nearest command or keyword.** -/
theorem Inherits.exists_keyword (hi : r.Inherits made) (hr : r.WellFormed)
    (h : r.node? id = some node) :
    ∃ k owner, r.nearestKeyword? made id = some k ∧ r.node? k = some owner ∧
      node.data = owner.data := by
  induction id using Nat.strong_induction_on generalizing node with
  | _ id ih =>
    -- The path ends at the node, so the node is looked at first.
    obtain ⟨above, hpath⟩ := exists_path_eq r id
    have hlt : id < made.length := hi.length_eq ▸ node?_lt h
    have horigin : made[id]? = some made[id] := List.getElem?_eq_getElem hlt
    cases ho : made[id] with
    | keyword =>
      refine ⟨id, node, ?_, h, rfl⟩
      rw [nearestKeyword?, hpath, List.reverse_append]
      simp [horigin, ho]
    | argument =>
      -- An argument is passed over, and has the metadata of its parent.
      obtain ⟨p, parent, hp, hparent, hdata⟩ := hi.argument h (horigin.trans (congrArg some ho))
      obtain ⟨k, owner, hk, howner, heq⟩ := ih p (hr.parent h hp).1 hparent
      refine ⟨k, owner, ?_, howner, hdata.trans heq⟩
      rw [nearestKeyword?, path_child hr h hp, List.reverse_append]
      simp only [List.reverse_singleton, List.singleton_append]
      rw [List.find?_cons_of_neg (by simp [horigin, ho])]
      exact hk

/-! ### Going up -/

/-- Going up by parents from a node, until there is none; the nodes are listed from the top. -/
inductive Climb (r : Registry H) : NodeId → List NodeId → Prop
  /-- The node has no parent. -/
  | top {id : NodeId} {node : Node H} (h : r.node? id = some node) (hp : node.parent = none) :
    Climb r id [id]
  /-- The node has a parent, and the way goes on from there. -/
  | up {id p : NodeId} {node : Node H} {above : List NodeId} (h : r.node? id = some node)
    (hp : node.parent = some p) (habove : Climb r p above) : Climb r id (above ++ [id])

/-- **Going up comes to an end**, and the path to a node is the way. -/
theorem climb_path (hr : r.WellFormed) (h : r.node? id = some node) : r.Climb id (r.path id) := by
  induction id using Nat.strong_induction_on generalizing node with
  | _ id ih =>
    cases hp : node.parent with
    | none => rw [path_root h hp]; exact .top h hp
    | some p =>
      obtain ⟨hlt, above, habove, -⟩ := hr.parent h hp
      rw [path_child hr h hp]
      exact .up h hp (ih p hlt habove)

/-- A way up has as many nodes as the node is deep, and one more. -/
theorem Climb.length_eq (hr : r.WellFormed) {way : List NodeId} (hclimb : r.Climb id way) :
    ∀ {node : Node H}, r.node? id = some node → way.length = node.depth + 1 := by
  induction hclimb with
  | top h hp =>
    intro node h'
    obtain rfl := Option.some.inj (h.symm.trans h')
    rw [hr.depth_root h hp, List.length_singleton]
  | up h hp _ ih =>
    intro node h'
    obtain rfl := Option.some.inj (h.symm.trans h')
    obtain ⟨-, above, habove, hdepth⟩ := hr.parent h hp
    rw [List.length_append, List.length_singleton, ih habove, hdepth]

theorem mem_roots : id ∈ r.roots ↔ ∃ node, r.node? id = some node ∧ node.depth = 0 := by
  constructor
  · intro h
    have hroot := (List.mem_filter.mp h).2
    cases hnode : r.node? id with
    | none => simp [isRoot, hnode] at hroot
    | some node => exact ⟨node, rfl, by simpa [isRoot, hnode] using hroot⟩
  · rintro ⟨node, h, hdepth⟩
    exact List.mem_filter.mpr
      ⟨List.mem_range.mpr (node?_lt h), by simp [isRoot, h, hdepth]⟩

/-- A way up ends at the root of a command. -/
theorem Climb.exists_root (hr : r.WellFormed) {way : List NodeId} (hclimb : r.Climb id way) :
    ∃ root ∈ r.roots, way.head? = some root := by
  induction hclimb with
  | @top id node h hp => exact ⟨id, mem_roots.mpr ⟨node, h, hr.depth_root h hp⟩, rfl⟩
  | up h hp _ ih =>
    obtain ⟨root, hroot, hhead⟩ := ih
    exact ⟨root, hroot, by rw [List.head?_append, hhead, Option.some_or]⟩

end Registry

end CommandTree
