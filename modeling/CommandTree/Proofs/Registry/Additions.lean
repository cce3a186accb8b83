import CommandTree.Proofs.Registry.Ancestry
import CommandTree.Proofs.Registry.Parts

/-!
# What a step adds

A registry grows at its end, and a step reaches back to one older node at most: the one
it goes on from.  That node gets a child at the end of its list, or a handler.  All other
nodes are left as they are, by the built-in commands too, whose many steps go on from
nodes of their own.  What is read off the tree, up to the root of a command, stays the
same everywhere.

## Main definitions

* `BuildStep.parent?` — the node that a step declares others below.
* `Registry.Touch` — the ways in which a step can treat a node.
* `Registry.Retained` — what is still true of a node after a step.
* `Registry.Lasts` — what is still true of a registry after any number of steps.

## Main results

* `describe_eq_of_extends`, `Extends.roots_eq_append` — what is read off the tree does not change.
* `exists_touch` — what a step does to a node that was there before.
* `apply_appends` — **steps only append**.
-/

namespace CommandTree

variable {H : Host}

/-- The node that a step declares others below. -/
def BuildStep.parent? : BuildStep H → Option NodeId
  | .argument parent _ | .literal parent _ | .location parent _ => some parent
  | .command _ | .attach _ _ | .help | .teleport => none

/-- A step goes on from a node to declare others below it, or to put a handler on it. -/
theorem BuildStep.base?_eq_some_iff {step : BuildStep H} {id : NodeId} :
    step.base? = some id ↔ step.parent? = some id ∨ ∃ handler, step = .attach id handler := by
  cases step <;> simp [base?, parent?]

theorem Node.SameDeclaration.word_eq {old new : Node H} (h : old.SameDeclaration new) :
    new.word = old.word := by
  rw [Node.word, Node.word, h.depth, h.argument]

namespace Registry

variable {r r' : Registry H} {id : NodeId} {node : Node H} {step : BuildStep H}

/-! ### What is read off the tree -/

/-- **The path to a node in words does not change when the registry grows.** -/
theorem describe_eq_of_extends (hr : r.WellFormed) (hr' : r'.WellFormed) (hext : r.Extends r')
    (h : r.node? id = some node) : r'.describe id = r.describe id := by
  rw [describe, describe, path_eq_of_extends hr hr' hext h]
  refine congrArg (joinWith " ") (List.map_congr_left fun j hj => ?_)
  obtain ⟨above, habove⟩ := exists_node?_of_mem_path hr h j hj
  obtain ⟨above', habove', hs⟩ := hext habove
  rw [habove, habove', Option.map_some, Option.map_some, hs.word_eq]

/-- **Roots that were there stay the first ones**, in the same order; the others are new nodes. -/
theorem Extends.roots_eq_append (hext : r.Extends r') :
    ∃ fresh, r'.roots = r.roots ++ fresh ∧ ∀ id ∈ fresh, r.size ≤ id := by
  obtain ⟨k, hk⟩ := Nat.exists_eq_add_of_le hext.size_le
  refine ⟨((List.range k).map (r.size + ·)).filter r'.isRoot, ?_, fun id hid => ?_⟩
  · have hold : (List.range r.size).filter r'.isRoot = (List.range r.size).filter r.isRoot := by
      refine List.filter_congr fun id hid => ?_
      obtain ⟨node, hnode⟩ := exists_node?_of_lt (List.mem_range.mp hid)
      obtain ⟨node', hnode', hs⟩ := hext hnode
      rw [isRoot, isRoot, hnode, hnode', Option.any_some, Option.any_some, hs.depth]
    rw [roots, roots, hk, List.range_add, List.filter_append, hold]
  · obtain ⟨j, -, rfl⟩ := List.mem_map.mp (List.mem_of_mem_filter hid)
    exact Nat.le_add_right _ j

/-! ### What a step does to a node -/

/-- The ways in which a step can treat a node that was there before it. -/
inductive Touch (r : Registry H) (step : BuildStep H) (id : NodeId) (old : Node H) : Node H → Prop
  /-- The step goes on from another node, or from none. -/
  | apart (hbase : step.base? ≠ some id) : Touch r step id old old
  /-- Others are declared below the node, and the first new node is its last child. -/
  | adopted (hparent : step.parent? = some id) (hok : (r.apply step).result.isOk = true) :
    Touch r step id old (old.adopt r.size)
  /-- A handler is put on the node. -/
  | handed {handler : Handler H} (hstep : step = .attach id handler)
    (hok : (r.apply step).result.isOk = true) :
    Touch r step id old { old with handler := some handler }
  /-- A handler does not fit the node. -/
  | refused {handler : Handler H} (hstep : step = .attach id handler)
    (hfailed : (r.apply step).result.isOk = false) : Touch r step id old old

/-- Of the axes of a location an older node adopts the first one only. -/
theorem node?_location (hr : r.WellFormed) (hnode : r.node? id = some node) (name : String) :
    (r.location id name).registry.node? id = some (node.adopt r.size) := by
  obtain ⟨-, -, hadopted, -⟩ := argument_nodes hnode ⟨name, .axis⟩
  have hlater : ∀ k, r.size + k ≠ id := fun k =>
    Nat.ne_of_gt (Nat.lt_of_lt_of_le (node?_lt hnode) (Nat.le_add_right _ k))
  rw [location_eq_after hr, locationParts]
  split
  · exact hadopted
  · exact argument_node? (argument_node? hadopted (hlater 0) _) (hlater 1) _

/-- A node below which others are declared gets one child. -/
theorem touch_of_parent? (hr : r.WellFormed) (hnode : r.node? id = some node)
    (hparent : step.parent? = some id) :
    (r.apply step).result.isOk = true ∧
      (r.apply step).registry.node? id = some (node.adopt r.size) := by
  cases step with
  | argument parent a =>
    cases hparent
    obtain ⟨-, -, hadopted, -⟩ := argument_nodes hnode a
    exact ⟨by simp only [apply, argument, hnode]; rfl, hadopted⟩
  | literal parent data =>
    cases hparent
    have hpush : r.apply (.literal id data) =
        .grown (r.push (some id) data ⟨data.name, .literal⟩) := by
      simp only [apply, literal, hnode]
    rw [hpush]
    refine ⟨rfl, ?_⟩
    rw [Built.grown, node?_push, if_neg (Nat.ne_of_lt (node?_lt hnode)), hnode, Option.map_some,
      if_pos rfl]
  | location parent name =>
    cases hparent
    have hadopted := node?_location hr hnode name
    refine ⟨?_, hadopted⟩
    cases hresult : (r.apply (.location id name)).result with
    | ok _ => rfl
    | error e =>
      -- A step that fails leaves the node without the child.
      have hsame : (r.location id name).registry = r := apply_unchanged hr hresult
      rw [hsame, hnode, Option.some.injEq] at hadopted
      have hlength := congrArg (List.length ∘ Node.children) hadopted
      simp [Node.adopt] at hlength
  | command _ | attach _ _ | help | teleport => cases hparent

/-- A node that a handler is offered has it afterwards if it fits. -/
theorem touch_of_attach (hnode : r.node? id = some node) (handler : Handler H) :
    ∃ new, (r.attach id handler).registry.node? id = some new ∧
      r.Touch (.attach id handler) id node new := by
  by_cases hfit : r.schema id = handler.params
  · have hattach : r.attach id handler = ⟨.ok id, r.setHandler id handler⟩ := by
      rw [attach_eq hnode, if_pos hfit]
    refine ⟨{ node with handler := some handler }, ?_, .handed rfl ?_⟩
    · rw [hattach, node?_setHandler, hnode, Option.map_some, if_pos rfl]
    · rw [apply, hattach]
      rfl
  · have hattach : (r.attach id handler) =
        ⟨.error (.signatureMismatch (r.describe id) (r.schema id) handler.params), r⟩ := by
      rw [attach_eq hnode, if_neg hfit]
    refine ⟨node, by rw [hattach, hnode], .refused rfl ?_⟩
    rw [apply, hattach]
    rfl

/-- **What a step does to a node that was there before.** -/
theorem exists_touch (hr : r.WellFormed) (step : BuildStep H) (hnode : r.node? id = some node) :
    ∃ new, (r.apply step).registry.node? id = some new ∧ r.Touch step id node new := by
  by_cases hbase : step.base? = some id
  · rcases BuildStep.base?_eq_some_iff.mp hbase with hparent | ⟨handler, rfl⟩
    · obtain ⟨hok, hadopted⟩ := touch_of_parent? hr hnode hparent
      exact ⟨_, hadopted, .adopted hparent hok⟩
    · exact touch_of_attach hnode handler
  · exact ⟨node, apply_node? hr hnode fun base hstep heq => hbase (heq ▸ hstep), .apart hbase⟩

/-! ### Steps only append -/

/-- What is still true after a step of a node that was there before it. -/
structure Retained (r : Registry H) (step : BuildStep H) (id : NodeId) (old new : Node H) :
    Prop where
  /-- The node is still there. -/
  node : (r.apply step).registry.node? id = some new
  /-- It has the same word, metadata, parent and depth. -/
  declaration : old.SameDeclaration new
  /-- The path to it is the same. -/
  path : (r.apply step).registry.path id = r.path id
  /-- It produces the same values. -/
  schema : (r.apply step).registry.schema id = r.schema id
  /-- It is described in the same words. -/
  describe : (r.apply step).registry.describe id = r.describe id
  /-- A handler that has been attached to the node is on it. -/
  handler_attached : ∀ handler, step = .attach id handler → (r.apply step).result.isOk = true →
    new.handler = some handler
  /-- Otherwise it has the handler of before. -/
  handler_eq : (∀ handler, step = .attach id handler → (r.apply step).result.isOk = false) →
    new.handler = old.handler
  /-- If nodes have been declared below the node, the first new one is its last child. -/
  children_declared : step.parent? = some id → (r.apply step).result.isOk = true →
    new.children = old.children ++ [r.size]
  /-- Otherwise it has the children of before. -/
  children_eq : (step.parent? = some id → (r.apply step).result.isOk = false) →
    new.children = old.children

namespace Touch

variable {new : Node H} (h : r.Touch step id node new)

include h

theorem handler_attached {handler : Handler H} (hstep : step = .attach id handler)
    (hok : (r.apply step).result.isOk = true) : new.handler = some handler := by
  cases h with
  | apart hbase => exact absurd (BuildStep.base?_eq_some_iff.mpr (.inr ⟨handler, hstep⟩)) hbase
  | adopted hparent _ =>
    rw [hstep] at hparent
    cases hparent
  | handed hstep' _ =>
    rw [hstep] at hstep'
    cases hstep'
    rfl
  | refused _ hfailed =>
    rw [hok] at hfailed
    cases hfailed

theorem handler_eq
    (hnone : ∀ handler, step = .attach id handler → (r.apply step).result.isOk = false) :
    new.handler = node.handler := by
  cases h with
  | apart _ | adopted _ _ | refused _ _ => rfl
  | handed hstep hok =>
    rw [hnone _ hstep] at hok
    cases hok

theorem children_declared (hparent : step.parent? = some id) :
    new.children = node.children ++ [r.size] := by
  cases h with
  | apart hbase => exact absurd (BuildStep.base?_eq_some_iff.mpr (.inl hparent)) hbase
  | adopted _ _ => rfl
  | handed hstep _ | refused hstep _ =>
    rw [hstep] at hparent
    cases hparent

theorem children_eq (hnone : step.parent? = some id → (r.apply step).result.isOk = false) :
    new.children = node.children := by
  cases h with
  | apart _ | handed _ _ | refused _ _ => rfl
  | adopted hparent hok =>
    rw [hnone hparent] at hok
    cases hok

theorem children_prefix : node.children <+: new.children := by
  cases h with
  | adopted _ _ => exact List.prefix_append _ _
  | apart _ | handed _ _ | refused _ _ => exact List.prefix_refl _

theorem handler_isSome (hhandler : node.handler.isSome = true) : new.handler.isSome = true := by
  cases h with
  | handed _ _ => rfl
  | apart _ | adopted _ _ | refused _ _ => exact hhandler

end Touch

theorem exists_retained (hr : r.WellFormed) (step : BuildStep H) (hnode : r.node? id = some node) :
    ∃ new, r.Retained step id node new := by
  have hgrows := apply_grows r step
  have hext := hgrows.extends
  have hr' := hr.grows hgrows
  obtain ⟨new, hnew, htouch⟩ := exists_touch hr step hnode
  obtain ⟨new', hnew', hs⟩ := hext hnode
  obtain rfl := Option.some.inj (hnew.symm.trans hnew')
  exact ⟨new, {
    node := hnew
    declaration := hs
    path := path_eq_of_extends hr hr' hext hnode
    schema := schema_eq_of_extends hr hr' hext hnode
    describe := describe_eq_of_extends hr hr' hext hnode
    handler_attached := fun _ => htouch.handler_attached
    handler_eq := htouch.handler_eq
    children_declared := fun hparent _ => htouch.children_declared hparent
    children_eq := htouch.children_eq }⟩

/-- What is still true of a registry after any number of steps. -/
structure Lasts (r r' : Registry H) : Prop where
  /-- A node is declared as before, has the children of before as its first ones, and has a handler
  if it had one. -/
  node : ∀ {id old}, r.node? id = some old → ∃ new, r'.node? id = some new ∧
    old.SameDeclaration new ∧ old.children <+: new.children ∧
      (old.handler.isSome = true → new.handler.isSome = true)
  /-- The way to a node, what it produces and how it is described are the same. -/
  way : ∀ {id old}, r.node? id = some old →
    r'.path id = r.path id ∧ r'.schema id = r.schema id ∧ r'.describe id = r.describe id
  /-- Roots that were there are the first ones, in the same order. -/
  roots : r.roots <+: r'.roots

theorem Lasts.refl (r : Registry H) : r.Lasts r where
  node {_ old} h := ⟨old, h, .refl old, List.prefix_refl _, id⟩
  way _ := ⟨rfl, rfl, rfl⟩
  roots := List.prefix_refl _

theorem Lasts.trans {a b c : Registry H} (hab : a.Lasts b) (hbc : b.Lasts c) : a.Lasts c where
  node h := by
    obtain ⟨mid, hmid, hs, hchildren, hhandler⟩ := hab.node h
    obtain ⟨new, hnew, hs', hchildren', hhandler'⟩ := hbc.node hmid
    exact ⟨new, hnew, hs.trans hs', hchildren.trans hchildren', hhandler' ∘ hhandler⟩
  way h := by
    obtain ⟨mid, hmid, -⟩ := hab.node h
    obtain ⟨hpath, hschema, hdescribe⟩ := hab.way h
    obtain ⟨hpath', hschema', hdescribe'⟩ := hbc.way hmid
    exact ⟨hpath'.trans hpath, hschema'.trans hschema, hdescribe'.trans hdescribe⟩
  roots := hab.roots.trans hbc.roots

theorem lasts_apply (hr : r.WellFormed) (step : BuildStep H) : r.Lasts (r.apply step).registry where
  node h := by
    obtain ⟨new, hnew, htouch⟩ := exists_touch hr step h
    obtain ⟨new', hnew', hs⟩ := (apply_grows r step).extends h
    obtain rfl := Option.some.inj (hnew.symm.trans hnew')
    exact ⟨new, hnew, hs, htouch.children_prefix, htouch.handler_isSome⟩
  way h := by
    obtain ⟨_, hretained⟩ := exists_retained hr step h
    exact ⟨hretained.path, hretained.schema, hretained.describe⟩
  roots := by
    obtain ⟨fresh, hroots, -⟩ := (apply_grows r step).extends.roots_eq_append
    exact ⟨fresh, hroots.symm⟩

theorem lasts_after (hr : r.WellFormed) (steps : List (BuildStep H)) : r.Lasts (r.after steps) := by
  induction steps generalizing r with
  | nil => exact .refl r
  | cons step steps ih => exact (lasts_apply hr step).trans (ih (hr.grows (apply_grows r step)))

/-- **Steps only append.**  A step leaves every node that was there with its word and metadata, its
place and the path to it, and what is read off that path; it puts a handler on a node only if it is
there to attach one to this very node and ends well, and gives a node only one child, the first new
node, after the others, and only if it declares nodes below this very one.  Roots keep their order,
and new ones come after them.  So it is with any number of steps. -/
theorem apply_appends (hr : r.Reachable) :
    (∀ step id old, r.node? id = some old → ∃ new, r.Retained step id old new) ∧
    (∀ step, ∃ fresh, (r.apply step).registry.roots = r.roots ++ fresh ∧
      ∀ id ∈ fresh, r.size ≤ id) ∧
    ∀ steps, r.Lasts (r.after steps) :=
  ⟨fun step _ _ hnode => exists_retained hr.wellFormed step hnode,
    fun step => (apply_grows r step).extends.roots_eq_append,
    fun steps => lasts_after hr.wellFormed steps⟩

/-- A location below the node `at` of the command `warp` gives that node a second child, and the
teleport command leaves the tree of the first one alone. -/
theorem apply_appends_warp :
    ((warpTree.apply (.location 4 "from")).registry.children 4 = [5, 6]) ∧
    ((warpTree.apply .teleport).registry.describe 5 = "warp <to> <to_y*> <to_z*> at <who>") ∧
    (warpTree.apply .teleport).registry.roots.head? = some 0 := by
  obtain ⟨hretained, hroots, -⟩ := apply_appends (r := warpTree) ⟨_, rfl⟩
  have hsize : warpTree.size = 6 := by decide +kernel
  have hchildren : warpTree.children 4 = [5] := by decide +kernel
  have hdescribe : warpTree.describe 5 = "warp <to> <to_y*> <to_z*> at <who>" := by decide +kernel
  have hok : (warpTree.apply (.location 4 "from")).result.isOk = true := by decide +kernel
  have hfour : 4 < warpTree.size := by rw [hsize]; decide
  have hfive : 5 < warpTree.size := by rw [hsize]; decide
  obtain ⟨place, hplace⟩ := exists_node?_of_lt hfour
  obtain ⟨player, hplayer⟩ := exists_node?_of_lt hfive
  obtain ⟨new, hnew⟩ := hretained (.location 4 "from") 4 place hplace
  obtain ⟨_, hlater⟩ := hretained .teleport 5 player hplayer
  obtain ⟨fresh, hfresh, -⟩ := hroots .teleport
  rw [children_eq hplace] at hchildren
  refine ⟨?_, hlater.describe.trans hdescribe, ?_⟩
  · rw [children_eq hnew.node, hnew.children_declared rfl hok, hchildren, hsize]
    rfl
  · have hold : warpTree.roots = [0] := by decide +kernel
    rw [hfresh, hold]
    rfl

end Registry

end CommandTree
