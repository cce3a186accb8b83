import CommandTree.Proofs.Registry.Parts

/-!
# Locations in the tree

A location is declared as three axes in a row, of which only the first contributes a
value; the names of the other two carry the trailing mark.  Nothing keeps later steps
from building on the first two axes, or from declaring a first axis by itself.  If no
step does, every first axis has the second as its only child and no handler, and so has
the second axis the third.  The built-in commands are declared with such care.

## Main definitions

* `Argument.isFirstAxis` — an axis that contributes a value.
* `Registry.Triple` — the three nodes of a location.
* `Registry.Whole` — every first axis begins a triple.
* `BuildStep.spares`, `Registry.sparing` — steps that leave locations whole.

## Main results

* `location_triple` — a location is declared as a triple.
* `apply_whole` — a step that spares locations leaves them whole.
* `ofSteps_whole` — **all locations are whole** if all steps have spared them.
-/

namespace CommandTree

variable {H : Host}

/-- Whether an argument is the first axis of a location, or an axis by itself: one that contributes
a value. -/
def Argument.isFirstAxis (a : Argument H) : Bool := a.isAxis && !a.isTrailing

theorem Argument.isFirstAxis_eq {a : Argument H} (h : a.isAxis = true) :
    a.isFirstAxis = a.valueKind?.isSome := by
  obtain ⟨name, type⟩ := a
  cases type with
  | axis =>
    rw [isFirstAxis, h, valueKind?]
    split <;> next htrailing => simp [htrailing]
  | _ => cases h

/-- The other two axes of a location carry the trailing mark. -/
theorem Argument.isFirstAxis_append (name : String) {suffix : String}
    (h : isTrailingName suffix = true) (type : ArgumentType H) :
    Argument.isFirstAxis ⟨name ++ suffix, type⟩ = false := by
  rw [isFirstAxis, isTrailing, isTrailingName_append name h, Bool.not_true, Bool.and_false]

namespace Registry

variable {r r' : Registry H} {id x y z : NodeId} {node : Node H} {name : String}

/-! ### Triples -/

/-- The three nodes are the axes of a location with a plain name.  The first two lead only to the
next one, and nothing is done where the command ends on them. -/
structure Triple (r : Registry H) (name : String) (x y z : NodeId) : Prop where
  plain : isTrailingName name = false
  first : ∃ node, r.node? x = some node ∧ node.argument = ⟨name, .axis⟩ ∧
    node.children = [y] ∧ node.handler = none
  second : ∃ node, r.node? y = some node ∧ node.argument = ⟨name ++ "_y*", .axis⟩ ∧
    node.parent = some x ∧ node.children = [z] ∧ node.handler = none
  third : ∃ node, r.node? z = some node ∧ node.argument = ⟨name ++ "_z*", .axis⟩ ∧
    node.parent = some y

/-- Every first axis begins a triple. -/
def Whole (r : Registry H) : Prop :=
  ∀ ⦃x node⦄, r.node? x = some node → node.argument.isFirstAxis = true →
    ∃ y z, r.Triple node.argument.name x y z

theorem whole_empty : (empty : Registry H).Whole := by
  intro x node h
  simp at h

/-- Whether a node is a first axis. -/
def isFirstAxis (r : Registry H) (id : NodeId) : Bool :=
  (r.node? id).any (·.argument.isFirstAxis)

/-- Whether a node is a first axis or below one: the nodes of a triple that are not to be built
on. -/
def isInner (r : Registry H) (id : NodeId) : Bool :=
  r.isFirstAxis id || ((r.node? id).bind Node.parent).any r.isFirstAxis

theorem isFirstAxis_eq (h : r.node? id = some node) :
    r.isFirstAxis id = node.argument.isFirstAxis := by
  rw [isFirstAxis, h, Option.any_some]

theorem isInner_eq (h : r.node? id = some node) :
    r.isInner id = (node.argument.isFirstAxis || node.parent.any r.isFirstAxis) := by
  rw [isInner, isFirstAxis_eq h, h, Option.bind_some]

/-- What a node is does not change when the registry grows. -/
theorem isInner_of_extends (hr : r.WellFormed) (hext : r.Extends r') (h : r.node? id = some node) :
    r'.isInner id = r.isInner id := by
  obtain ⟨node', h', hs⟩ := hext h
  rw [isInner_eq h, isInner_eq h', hs.argument, hs.parent]
  cases hp : node.parent with
  | none => rfl
  | some p =>
    obtain ⟨-, above, habove, -⟩ := hr.parent h hp
    obtain ⟨above', habove', hs'⟩ := hext habove
    rw [Option.any_some, Option.any_some, isFirstAxis_eq habove, isFirstAxis_eq habove',
      hs'.argument]

/-- Of its nodes only the first contributes a value. -/
theorem Triple.isFirstAxis (h : r.Triple name x y z) :
    r.isFirstAxis x = true ∧ r.isFirstAxis y = false ∧ r.isFirstAxis z = false := by
  obtain ⟨nx, hx, hargx, -⟩ := h.first
  obtain ⟨ny, hy, hargy, -⟩ := h.second
  obtain ⟨nz, hz, hargz, -⟩ := h.third
  rw [isFirstAxis_eq hx, isFirstAxis_eq hy, isFirstAxis_eq hz, hargx, hargy, hargz]
  refine ⟨?_, Argument.isFirstAxis_append name (by decide) .axis,
    Argument.isFirstAxis_append name (by decide) .axis⟩
  rw [Argument.isFirstAxis, Argument.isTrailing, h.plain]
  rfl

/-- Its last node is the only one to be built on. -/
theorem Triple.isInner (h : r.Triple name x y z) :
    r.isInner x = true ∧ r.isInner y = true ∧ r.isInner z = false := by
  obtain ⟨ny, hy, -, hparent, -⟩ := h.second
  obtain ⟨nz, hz, -, hparent'⟩ := h.third
  obtain ⟨hfirst, hsecond, hthird⟩ := h.isFirstAxis
  refine ⟨?_, ?_, ?_⟩
  · rw [Registry.isInner, hfirst, Bool.true_or]
  · rw [Registry.isInner, hy, Option.bind_some, hparent, Option.any_some, hfirst, Bool.or_true]
  · rw [Registry.isInner, hthird, hz, Option.bind_some, hparent', Option.any_some, hsecond]
    rfl

/-- A triple stays what it is when nothing is built on its first two nodes. -/
theorem Triple.apply (h : r.Triple name x y z) (hr : r.WellFormed) {step : BuildStep H}
    (hbase : ∀ base ∈ step.base?, r.isInner base = false) :
    (r.apply step).registry.Triple name x y z := by
  obtain ⟨hx, hy, -⟩ := h.isInner
  have hother : ∀ {id}, r.isInner id = true → ∀ base ∈ step.base?, base ≠ id := by
    rintro id hid base hstep rfl
    rw [hbase base hstep] at hid
    cases hid
  obtain ⟨nx, hnx, hfirst⟩ := h.first
  obtain ⟨ny, hny, hsecond⟩ := h.second
  obtain ⟨nz, hnz, hargument, hparent⟩ := h.third
  obtain ⟨nz', hnz', hs⟩ := (apply_grows r step).extends hnz
  exact ⟨h.plain, ⟨nx, apply_node? hr hnx (hother hx), hfirst⟩,
    ⟨ny, apply_node? hr hny (hother hy), hsecond⟩,
    ⟨nz', hnz', hs.argument.trans hargument, hs.parent.trans hparent⟩⟩

/-! ### Locations -/

/-- **A location is declared as a triple** at the end of the registry. -/
theorem location_triple (hr : r.WellFormed) {parent : NodeId} (hparent : r.node? parent = some node)
    (hname : isTrailingName name = false) :
    (r.location parent name).registry.size = r.size + 3 ∧
      (r.location parent name).registry.Triple name r.size (r.size + 1) (r.size + 2) := by
  rw [location_eq_after hr, locationParts, if_neg (by simp [hname])]
  show ((((r.argument parent ⟨name, .axis⟩).registry.argument r.size ⟨name ++ "_y*", .axis⟩
    ).registry.argument (r.size + 1) ⟨name ++ "_z*", .axis⟩).registry.size = _ ∧
    Triple (((r.argument parent ⟨name, .axis⟩).registry.argument r.size ⟨name ++ "_y*", .axis⟩
    ).registry.argument (r.size + 1) ⟨name ++ "_z*", .axis⟩).registry _ _ _ _)
  obtain ⟨hsize₁, hx₁, -, -⟩ := argument_nodes hparent ⟨name, .axis⟩
  generalize (r.argument parent ⟨name, .axis⟩).registry = r₁ at hsize₁ hx₁ ⊢
  obtain ⟨hsize₂, hy₂, hx₂, -⟩ := argument_nodes hx₁ ⟨name ++ "_y*", .axis⟩
  generalize (r₁.argument r.size ⟨name ++ "_y*", .axis⟩).registry = r₂ at hsize₂ hy₂ hx₂ ⊢
  rw [hsize₁] at hsize₂ hy₂ hx₂
  obtain ⟨hsize₃, hz₃, hy₃, hold₃⟩ := argument_nodes hy₂ ⟨name ++ "_z*", .axis⟩
  rw [hsize₂] at hsize₃ hz₃ hy₃
  have hx₃ := hold₃ r.size _ (Nat.succ_ne_self _) hx₂
  exact ⟨hsize₃, hname, ⟨_, hx₃, rfl, rfl, rfl⟩, ⟨_, hy₃, rfl, rfl, rfl, rfl⟩, ⟨_, hz₃, rfl, rfl⟩⟩

/-! ### Steps that leave locations whole -/

/-- Locations are whole, and the node may be built on: it is there, and not one of the first two of
a triple. -/
structure Free (r : Registry H) (id : NodeId) : Prop where
  wellFormed : r.WellFormed
  whole : r.Whole
  exists_node : ∃ node, r.node? id = some node
  outer : r.isInner id = false

theorem Free.mono (h : r.Free id) (hext : r.Extends r') (hr' : r'.WellFormed) (hw' : r'.Whole) :
    r'.Free id := by
  obtain ⟨node, hnode⟩ := h.exists_node
  obtain ⟨node', hnode', -⟩ := hext hnode
  exact ⟨hr', hw', ⟨node', hnode'⟩, by rw [isInner_of_extends h.wellFormed hext hnode, h.outer]⟩

/-- Locations stay whole if nothing is built on their first two nodes and every new first axis
begins a triple. -/
theorem Whole.apply (hw : r.Whole) (hr : r.WellFormed) {step : BuildStep H}
    (hbase : ∀ base ∈ step.base?, r.isInner base = false)
    (hnew : ∀ x node, (r.apply step).registry.node? x = some node → r.size ≤ x →
      node.argument.isFirstAxis = true →
      ∃ y z, (r.apply step).registry.Triple node.argument.name x y z) :
    (r.apply step).registry.Whole := by
  intro x node hnode hfirst
  rcases Nat.lt_or_ge x r.size with hlt | hge
  · obtain ⟨old, hold⟩ := exists_node?_of_lt hlt
    obtain ⟨node', hnode', hs⟩ := (apply_grows r step).extends hold
    obtain rfl := Option.some.inj (hnode.symm.trans hnode')
    rw [hs.argument] at hfirst ⊢
    obtain ⟨y, z, htriple⟩ := hw hold hfirst
    exact ⟨y, z, htriple.apply hr hbase⟩
  · exact hnew x node hnode hge hfirst

/-- What a step leaves if it ends well: it ends on a node that may be built on, and all such nodes
of before still are. -/
def Tidy (r : Registry H) (b : Built H) : Prop :=
  ∀ id, b.result = .ok id → b.registry.Free id ∧ ∀ j, r.Free j → b.registry.Free j

theorem Tidy.done (h : r.Free id) : r.Tidy ⟨.ok id, r⟩ := by
  rintro _ ⟨⟩
  exact ⟨h, fun _ hj => hj⟩

/-- Steps in a row are tidy if each of them is, given the nodes that may be built on by then. -/
theorem Tidy.andThen {b : Built H} {next : NodeId → Registry H → Built H} (hb : r.Tidy b)
    (hnext : ∀ id (r' : Registry H), r'.Free id → (∀ j, r.Free j → r'.Free j) →
      r'.Tidy (next id r')) : r.Tidy (b.andThen next) := by
  intro last hlast
  obtain ⟨id, hid, hthen⟩ := andThen_eq_ok hlast
  rw [hthen] at hlast ⊢
  obtain ⟨hfree, hold⟩ := hb id hid
  obtain ⟨hend, hold'⟩ := hnext id _ hfree hold last hlast
  exact ⟨hend, fun j hj => hold' j (hold j hj)⟩

/-- A single step is tidy if locations are whole after it and the node that it ends on may be built
on. -/
theorem tidy_of_whole (hr : r.WellFormed) {step : BuildStep H}
    (hw' : (r.apply step).registry.Whole)
    (hend : ∀ id, (r.apply step).result = .ok id → (∃ node, (r.apply step).registry.node? id =
      some node) ∧ (r.apply step).registry.isInner id = false) :
    r.Tidy (r.apply step) := by
  intro id hid
  have hgrows := apply_grows r step
  have hr' := hr.grows hgrows
  obtain ⟨hnode, houter⟩ := hend id hid
  exact ⟨⟨hr', hw', hnode, houter⟩, fun j hj => hj.mono hgrows.extends hr' hw'⟩

/-- A new node with a word that is no first axis is tidy, if its parent may be built on. -/
theorem push_tidy (hr : r.WellFormed) (hw : r.Whole) {step : BuildStep H} (data : CommandData H)
    {a : Argument H} (hparent : ∀ p ∈ step.base?, r.Free p)
    (happly : r.apply step = .grown (r.push step.base? data a)) (ha : a.isFirstAxis = false) :
    r.Tidy (r.apply step) := by
  have hregistry : (r.apply step).registry = (r.push step.base? data a).1 := by rw [happly]; rfl
  have hnode : (r.apply step).registry.node? r.size =
      some ⟨data, a, r.depthBelow step.base?, step.base?, [], none⟩ := by
    rw [hregistry, node?_push, if_pos rfl]
  have hw' : (r.apply step).registry.Whole := by
    refine hw.apply hr (fun p hp => (hparent p hp).outer) fun x node hnode hge hfirst => ?_
    rw [hregistry] at hnode
    rcases node?_push_cases hnode with ⟨-, rfl⟩ | ⟨old, hold, -⟩
    · rw [ha] at hfirst
      cases hfirst
    · exact absurd (node?_lt hold) (Nat.not_lt.mpr hge)
  refine tidy_of_whole hr hw' fun id hid => ?_
  obtain rfl : id = r.size := by
    rw [happly] at hid
    cases hid
    rfl
  refine ⟨⟨_, hnode⟩, ?_⟩
  rw [isInner_eq hnode, ha, Bool.false_or]
  -- The parent is no first axis, for it may be built on.
  cases hbase : step.base? with
  | none => rfl
  | some p =>
    have hfree := hparent p hbase
    obtain ⟨above, habove⟩ := hfree.exists_node
    obtain ⟨above', habove', hs⟩ := (apply_grows r step).extends habove
    have houter := hfree.outer
    rw [isInner_eq habove, Bool.or_eq_false_iff] at houter
    rw [Option.any_some, isFirstAxis_eq habove', hs.argument, houter.1]

theorem argument_tidy {parent : NodeId} (h : r.Free parent) {a : Argument H}
    (ha : a.isFirstAxis = false) : r.Tidy (r.argument parent a) := by
  obtain ⟨node, hnode⟩ := h.exists_node
  have happly : r.apply (.argument parent a) = .grown (r.push (some parent) node.data a) := by
    simp only [apply, argument, hnode]
  exact push_tidy h.wellFormed h.whole node.data (by rintro _ ⟨⟩; exact h) happly ha

theorem literal_tidy {parent : NodeId} (h : r.Free parent) (data : CommandData H) :
    r.Tidy (r.literal parent data) := by
  obtain ⟨node, hnode⟩ := h.exists_node
  have happly : r.apply (.literal parent data) =
      .grown (r.push (some parent) data ⟨data.name, .literal⟩) := by
    simp only [apply, literal, hnode]
  exact push_tidy h.wellFormed h.whole data (by rintro _ ⟨⟩; exact h) happly rfl

theorem command_tidy (hr : r.WellFormed) (hw : r.Whole) (data : CommandData H) :
    r.Tidy (r.command data) := by
  intro id hid
  have happly : r.apply (.command data) = .grown (r.push none data ⟨data.name, .literal⟩) :=
    command_eq_push (command_result hid).2
  exact push_tidy hr hw data (by rintro _ ⟨⟩) happly rfl id hid

theorem attach_tidy (h : r.Free id) (handler : Handler H) : r.Tidy (r.attach id handler) := by
  have hbase : ∀ base ∈ (BuildStep.attach id handler).base?, r.isInner base = false := by
    rintro _ ⟨⟩
    exact h.outer
  -- No node is new.
  have hw' : (r.apply (.attach id handler)).registry.Whole := by
    refine h.whole.apply h.wellFormed hbase fun x node hnode hge _ => ?_
    obtain ⟨old, hold, -⟩ := exists_node?_of_attach hnode
    exact absurd (node?_lt hold) (Nat.not_lt.mpr hge)
  refine tidy_of_whole h.wellFormed hw' fun j hj => ?_
  obtain rfl := attach_result hj
  obtain ⟨node, hnode⟩ := h.exists_node
  have hext := (apply_grows r (.attach j handler)).extends
  obtain ⟨node', hnode', -⟩ := hext hnode
  exact ⟨⟨node', hnode'⟩, by rw [isInner_of_extends h.wellFormed hext hnode, h.outer]⟩

theorem location_tidy {parent : NodeId} (h : r.Free parent) (name : String) :
    r.Tidy (r.location parent name) := by
  by_cases hname : isTrailingName name = true
  · rw [location, if_pos hname]
    refine argument_tidy h ?_
    simp [Argument.isFirstAxis, Argument.isTrailing, hname]
  · replace hname : isTrailingName name = false := by simpa using hname
    obtain ⟨node, hnode⟩ := h.exists_node
    obtain ⟨hsize, htriple⟩ := location_triple h.wellFormed hnode hname
    obtain ⟨-, hsecond, hthird⟩ := htriple.isFirstAxis
    have hbase : ∀ base ∈ (BuildStep.location parent name : BuildStep H).base?,
        r.isInner base = false := by
      rintro _ ⟨⟩
      exact h.outer
    have hw' : (r.apply (.location parent name)).registry.Whole := by
      refine h.whole.apply h.wellFormed hbase fun x node hnode hge hfirst => ?_
      have hlt : x < r.size + 3 := hsize ▸ node?_lt hnode
      have hx : (r.location parent name).registry.isFirstAxis x = true :=
        (isFirstAxis_eq hnode).trans hfirst
      -- Of the three new nodes only the first is a first axis.
      have hthree : ∀ n x : Nat, n ≤ x → x < n + 3 → x = n ∨ x = n + 1 ∨ x = n + 2 := by omega
      obtain rfl | rfl | rfl := hthree r.size x hge hlt
      · obtain ⟨nx, hnx, hargx, -⟩ := htriple.first
        obtain rfl := Option.some.inj (hnode.symm.trans hnx)
        exact ⟨_, _, by rw [hargx]; exact htriple⟩
      · rw [hsecond] at hx
        cases hx
      · rw [hthird] at hx
        cases hx
    refine tidy_of_whole h.wellFormed hw' fun id hid => ?_
    obtain rfl := location_result hname hid
    obtain ⟨nz, hz, -⟩ := htriple.third
    exact ⟨⟨nz, hz⟩, htriple.isInner.2.2⟩

/-! ### The built-in commands -/

theorem addHelp_tidy (hr : r.WellFormed) (hw : r.Whole) : r.Tidy r.addHelp := by
  refine (command_tidy hr hw _).andThen fun root r hroot _ => ?_
  refine (attach_tidy hroot _).andThen fun _ r _ hold => ?_
  replace hroot := hold _ hroot
  refine (argument_tidy hroot rfl).andThen fun page r hpage hold => ?_
  replace hroot := hold _ hroot
  refine (attach_tidy hpage _).andThen fun _ r _ hold => ?_
  replace hroot := hold _ hroot
  refine (argument_tidy hroot rfl).andThen fun name r hname hold => ?_
  replace hroot := hold _ hroot
  refine (attach_tidy hname _).andThen fun _ r _ hold => ?_
  exact .done (hold _ hroot)

theorem addGazes_tidy {place : NodeId} (h : r.Free place) (subject : Subject) :
    r.Tidy (r.addGazes place subject) := by
  -- The view of before.
  refine (argument_tidy h rfl).andThen fun blocks r hblocks hold => ?_
  replace h := hold _ h
  refine (attach_tidy hblocks _).andThen fun _ r _ hold => ?_
  replace h := hold _ h
  -- Angles.
  refine (argument_tidy h rfl).andThen fun yaw r hyaw hold => ?_
  replace h := hold _ h
  refine (argument_tidy hyaw rfl).andThen fun pitch r hpitch hold => ?_
  replace h := hold _ h
  refine (argument_tidy hpitch rfl).andThen fun blocks r hblocks hold => ?_
  replace h := hold _ h
  refine (attach_tidy hblocks _).andThen fun _ r _ hold => ?_
  replace h := hold _ h
  -- Someone or a place to face.
  refine (literal_tidy h _).andThen fun facing r hfacing _ => ?_
  refine (argument_tidy hfacing rfl).andThen fun entity r hentity hold => ?_
  replace hfacing := hold _ hfacing
  refine (argument_tidy hentity rfl).andThen fun blocks r hblocks hold => ?_
  replace hfacing := hold _ hfacing
  refine (attach_tidy hblocks _).andThen fun _ r _ hold => ?_
  replace hfacing := hold _ hfacing
  refine (location_tidy hfacing _).andThen fun position r hposition _ => ?_
  refine (argument_tidy hposition rfl).andThen fun blocks r hblocks _ => ?_
  exact attach_tidy hblocks _

theorem addTeleport_tidy (hr : r.WellFormed) (hw : r.Whole) : r.Tidy r.addTeleport := by
  refine (command_tidy hr hw _).andThen fun root r hroot _ => ?_
  -- The player goes to someone, or to a place.
  refine (argument_tidy hroot rfl).andThen fun player r hplayer hold => ?_
  replace hroot := hold _ hroot
  refine (attach_tidy hplayer _).andThen fun _ r _ hold => ?_
  replace hroot := hold _ hroot
  refine (location_tidy hroot _).andThen fun place r hplace hold => ?_
  replace hroot := hold _ hroot
  refine (addGazes_tidy hplace .sender).andThen fun _ r _ hold => ?_
  replace hroot := hold _ hroot
  -- Or someone else does.
  refine (argument_tidy hroot rfl).andThen fun victim r hvictim hold => ?_
  replace hroot := hold _ hroot
  refine (argument_tidy hvictim rfl).andThen fun player r hplayer hold => ?_
  replace hroot := hold _ hroot
  replace hvictim := hold _ hvictim
  refine (argument_tidy hplayer rfl).andThen fun blocks r hblocks hold => ?_
  replace hroot := hold _ hroot
  replace hvictim := hold _ hvictim
  refine (attach_tidy hblocks _).andThen fun _ r _ hold => ?_
  replace hroot := hold _ hroot
  replace hvictim := hold _ hvictim
  refine (location_tidy hvictim _).andThen fun place r hplace hold => ?_
  replace hroot := hold _ hroot
  refine (addGazes_tidy hplace .victim).andThen fun _ r _ hold => ?_
  exact .done (hold _ hroot)

end Registry

/-! ### Runs of steps -/

/-- Whether a step leaves locations whole: it builds on none of the first two nodes of a triple, and
declares no first axis but as part of a location. -/
def BuildStep.spares (r : Registry H) : BuildStep H → Bool
  | .argument parent a => !r.isInner parent && !a.isFirstAxis
  | .literal parent _ | .location parent _ | .attach parent _ => !r.isInner parent
  | .command _ | .help | .teleport => true

namespace Registry

variable {r : Registry H} {id : NodeId}

/-- Whether all steps that do not fail leave locations whole. -/
def sparing (r : Registry H) : List (BuildStep H) → Bool
  | [] => true
  | step :: steps =>
    (!(r.apply step).result.isOk || step.spares r) && (r.apply step).registry.sparing steps

/-- A step that ends well goes on from a node that is there. -/
theorem exists_base {step : BuildStep H} {base : NodeId} (h : (r.apply step).result = .ok id)
    (hbase : step.base? = some base) : ∃ node, r.node? base = some node := by
  refine Option.ne_none_iff_exists'.mp fun hnone => ?_
  cases step with
  | argument parent a | literal parent data | attach parent handler =>
    cases hbase
    simp [apply, argument, literal, attach, hnone] at h
  | location parent name =>
    cases hbase
    obtain ⟨_, hfirst⟩ : ∃ j, (r.argument base ⟨name, .axis⟩).result = .ok j := by
      simp only [apply, location] at h
      split at h
      · exact ⟨id, h⟩
      · obtain ⟨j, hj, -⟩ := andThen_eq_ok h
        exact ⟨j, hj⟩
    simp [argument, hnone] at hfirst
  | command _ | help | teleport => cases hbase

/-- A step that spares locations goes on from a node that may be built on. -/
theorem outer_of_spares {step : BuildStep H} {base : NodeId} (h : step.spares r = true)
    (hbase : step.base? = some base) : r.isInner base = false := by
  cases step with
  | argument parent a =>
    cases hbase
    simp only [BuildStep.spares, Bool.and_eq_true, Bool.not_eq_true'] at h
    exact h.1
  | literal parent _ | location parent _ | attach parent _ =>
    cases hbase
    simpa [BuildStep.spares] using h
  | command _ | help | teleport => cases hbase

/-- So it is tidy. -/
theorem apply_tidy (hr : r.WellFormed) (hw : r.Whole) {step : BuildStep H}
    (hspares : step.spares r = true) : r.Tidy (r.apply step) := by
  intro id hid
  have hfree : ∀ base, step.base? = some base → r.Free base := fun base hbase =>
    ⟨hr, hw, exists_base hid hbase, outer_of_spares hspares hbase⟩
  cases step with
  | command data => exact command_tidy hr hw data id hid
  | argument parent a =>
    simp only [BuildStep.spares, Bool.and_eq_true, Bool.not_eq_true'] at hspares
    exact argument_tidy (hfree parent rfl) hspares.2 id hid
  | literal parent data => exact literal_tidy (hfree parent rfl) data id hid
  | location parent name => exact location_tidy (hfree parent rfl) name id hid
  | attach parent handler => exact attach_tidy (hfree parent rfl) handler id hid
  | help => exact addHelp_tidy hr hw id hid
  | teleport => exact addTeleport_tidy hr hw id hid

/-- **A step that spares locations leaves them whole**, and so does a step that fails. -/
theorem apply_whole (hr : r.WellFormed) (hw : r.Whole) {step : BuildStep H}
    (hspares : (r.apply step).result.isOk = true → step.spares r = true) :
    (r.apply step).registry.Whole := by
  cases hresult : (r.apply step).result with
  | error e =>
    rw [apply_unchanged hr hresult]
    exact hw
  | ok id =>
    rw [hresult] at hspares
    exact (apply_tidy hr hw (hspares rfl) id hresult).1.whole

theorem after_whole {steps : List (BuildStep H)} (hr : r.WellFormed) (hw : r.Whole)
    (hsparing : r.sparing steps = true) : (r.after steps).Whole := by
  induction steps generalizing r with
  | nil => exact hw
  | cons step steps ih =>
    rw [sparing, Bool.and_eq_true] at hsparing
    refine ih (hr.grows (apply_grows r step)) (apply_whole hr hw fun hok => ?_) hsparing.2
    simpa [hok] using hsparing.1

/-- **All locations are whole** if every step has spared them. -/
theorem ofSteps_whole {steps : List (BuildStep H)}
    (hsparing : (empty : Registry H).sparing steps = true) : (ofSteps steps).Whole :=
  after_whole wellFormed_empty whole_empty hsparing

end Registry

end CommandTree
