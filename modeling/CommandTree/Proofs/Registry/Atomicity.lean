import CommandTree.Proofs.Registry.Owners
import CommandTree.Proofs.Registry.Schema

/-!
# Steps that fail

The built-in commands are declared by many steps in a row, and whatever was declared
before one of them failed would stay.  But only the first can fail, which asks for the
names of the command.  All the others build on nodes that this one and those after it
have just declared; what such a node produces is known from how the branch to it was
built, and the handlers that are put there take just that.  So every step either does
all it is there for, or nothing at all.

## Main definitions

* `Registry.Bears` — a node is there, and its handler receives values of known kinds.
* `Registry.Yields` — a step ends well, on a node that produces values of known kinds.

## Main results

* `Yields.andThen` — steps in a row end well if each does.
* `argument_yields`, `literal_yields`, `location_yields`, `attach_yields` — single steps that
  cannot fail.
* `addHelp_yields`, `addTeleport_yields` — the built-in commands, when their names are free.
* `apply_atomic` — a step that fails leaves the registry as it was.
-/

namespace CommandTree

variable {H : Host}

/-- The kind of the values that arguments of the type contribute unless their name is trailing. -/
def ArgumentType.kind? (type : ArgumentType H) : Option ValueKind :=
  Argument.valueKind? ⟨"", type⟩

theorem ArgumentType.valueKind?_eq (type : ArgumentType H) {name : String}
    (h : isTrailingName name = false) : Argument.valueKind? ⟨name, type⟩ = type.kind? := by
  have hnameless : isTrailingName "" = false := by decide
  simp only [kind?, Argument.valueKind?, Argument.isTrailing, h, hnameless]

theorem isTrailingName_append (name : String) {suffix : String}
    (h : isTrailingName suffix = true) : isTrailingName (name ++ suffix) = true := by
  rw [isTrailingName, beq_iff_eq] at h ⊢
  rw [String.toList_append, List.getLast?_append, h, Option.some_or]

theorem ArgumentType.valueKind?_of_isTrailingName (type : ArgumentType H) {name : String}
    (h : isTrailingName name = true) : Argument.valueKind? ⟨name, type⟩ = none :=
  if_pos h

namespace Registry

variable {r r' : Registry H} {id : NodeId} {kinds more : List ValueKind}

/-! ### Steps that end well -/

/-- The node is there, and a handler on it receives values of these kinds. -/
structure Bears (r : Registry H) (id : NodeId) (kinds : List ValueKind) : Prop where
  wellFormed : r.WellFormed
  exists_node : ∃ node, r.node? id = some node
  schema_eq : r.schema id = kinds

/-- What a node produces stays the same when the registry grows. -/
theorem Bears.mono (h : r.Bears id kinds) (hext : r.Extends r') (hr' : r'.WellFormed) :
    r'.Bears id kinds := by
  obtain ⟨node, hnode⟩ := h.exists_node
  obtain ⟨node', hnode', -⟩ := hext hnode
  refine ⟨hr', ⟨node', hnode'⟩, ?_⟩
  rw [schema_eq_of_extends h.wellFormed hr' hext hnode, h.schema_eq]

/-- The step ends well on a node that produces values of these kinds, and takes back nothing that
was declared before. -/
def Yields (r : Registry H) (b : Built H) (kinds : List ValueKind) : Prop :=
  ∃ id, b.result = .ok id ∧ r.Extends b.registry ∧ b.registry.Bears id kinds

theorem Yields.of_bears (h : r.Bears id kinds) : r.Yields ⟨.ok id, r⟩ kinds :=
  ⟨id, rfl, .refl r, h⟩

/-- **Steps in a row end well** if each of them does, given what the one before it ends on. -/
theorem Yields.andThen {b : Built H} {next : NodeId → Registry H → Built H}
    (hb : r.Yields b kinds)
    (hnext : ∀ id r', r.Extends r' → r'.Bears id kinds → r'.Yields (next id r') more) :
    r.Yields (b.andThen next) more := by
  obtain ⟨id, hid, hext, hbears⟩ := hb
  have hthen : b.andThen next = next id b.registry := by
    simp only [Built.andThen, hid]
  obtain ⟨last, hlast, hext', hbears'⟩ := hnext id b.registry hext hbears
  rw [hthen]
  exact ⟨last, hlast, hext.trans hext', hbears'⟩

/-- Another node that is to be used later stays what it was. -/
theorem Yields.beside {b : Built H} {next : NodeId → Registry H → Built H} {held : List ValueKind}
    (hb : r.Yields b kinds) (hid : r.Bears id held)
    (hnext : ∀ new (r' : Registry H), r'.Bears id held → r'.Bears new kinds →
      r'.Yields (next new r') more) :
    r.Yields (b.andThen next) more :=
  hb.andThen fun new r' hext hnew => hnext new r' (hid.mono hext hnew.wellFormed) hnew

/-! ### Single steps -/

/-- A new node below another one produces what that one does, and its own value. -/
theorem Bears.push {parent : NodeId} (h : r.Bears parent kinds) (data : CommandData H)
    (a : Argument H) :
    (r.push (some parent) data a).1.Bears r.size (kinds ++ a.valueKind?.toList) := by
  have hext := extends_push r (some parent) data a
  obtain ⟨node, hnode⟩ := h.exists_node
  have hr' : (r.push (some parent) data a).1.WellFormed := by
    refine h.wellFormed.push ?_ (by simp)
    rintro p ⟨⟩
    exact ⟨node, hnode⟩
  have hnew : (r.push (some parent) data a).1.node? r.size =
      some ⟨data, a, r.depthBelow (some parent), some parent, [], none⟩ := by
    rw [node?_push, if_pos rfl]
  refine ⟨hr', ⟨_, hnew⟩, ?_⟩
  have hpath := path_child hr' hnew rfl
  have hparent : (r.push (some parent) data a).1.schema parent = kinds := by
    rw [schema_eq_of_extends h.wellFormed hr' hext hnode, h.schema_eq]
  rw [schema, hpath, List.filterMap_append, ← schema, hparent]
  cases hkind : a.valueKind? <;> simp [valueKind?_eq hnew, hkind]

theorem push_yields {parent : NodeId} (h : r.Bears parent kinds) (data : CommandData H)
    (a : Argument H) :
    r.Yields (.grown (r.push (some parent) data a)) (kinds ++ a.valueKind?.toList) :=
  ⟨r.size, rfl, extends_push r (some parent) data a, h.push data a⟩

/-- A new argument contributes a value of the kind of its type. -/
theorem argument_yields {parent : NodeId} (h : r.Bears parent kinds) {name : String}
    {type : ArgumentType H} {kind : ValueKind} (hname : isTrailingName name = false)
    (hkind : type.kind? = some kind) :
    r.Yields (r.argument parent ⟨name, type⟩) (kinds ++ [kind]) := by
  obtain ⟨node, hnode⟩ := h.exists_node
  have hyields := push_yields h node.data ⟨name, type⟩
  rw [type.valueKind?_eq hname, hkind, Option.toList_some] at hyields
  simpa only [argument, hnode] using hyields

theorem trailing_yields {parent : NodeId} (h : r.Bears parent kinds) {name : String}
    (type : ArgumentType H) (hname : isTrailingName name = true) :
    r.Yields (r.argument parent ⟨name, type⟩) kinds := by
  obtain ⟨node, hnode⟩ := h.exists_node
  have hyields := push_yields h node.data ⟨name, type⟩
  rw [type.valueKind?_of_isTrailingName hname, Option.toList_none, List.append_nil] at hyields
  simpa only [argument, hnode] using hyields

theorem literal_yields {parent : NodeId} (h : r.Bears parent kinds) (data : CommandData H) :
    r.Yields (r.literal parent data) kinds := by
  obtain ⟨node, hnode⟩ := h.exists_node
  have hkind : Argument.valueKind? (H := H) ⟨data.name, .literal⟩ = none := by
    rw [Argument.valueKind?]
    split <;> rfl
  have hyields := push_yields h data ⟨data.name, .literal⟩
  rw [hkind, Option.toList_none, List.append_nil] at hyields
  simpa only [literal, hnode] using hyields

/-- The second and third axis of a location are trailing arguments, so the three of them contribute
one place. -/
theorem location_yields {parent : NodeId} (h : r.Bears parent kinds) (name : String)
    (hname : isTrailingName name = false) :
    r.Yields (r.location parent name) (kinds ++ [.location]) := by
  have hsecond := isTrailingName_append name (show isTrailingName "_y*" = true by decide)
  have hthird := isTrailingName_append name (show isTrailingName "_z*" = true by decide)
  rw [location, if_neg (by simp [hname])]
  refine (argument_yields h hname rfl).andThen fun x r _ hx => ?_
  refine (trailing_yields hx .axis hsecond).andThen fun y r _ hy => ?_
  exact trailing_yields hy .axis hthird

/-- A handler is put on a node that produces just what it takes. -/
theorem attach_yields (h : r.Bears id kinds) (handler : Handler H)
    (hfit : handler.params = kinds) : r.Yields (r.attach id handler) kinds := by
  obtain ⟨node, hnode⟩ := h.exists_node
  have hschema : r.schema id = handler.params := by rw [h.schema_eq, hfit]
  have hext := extends_setHandler r id handler
  rw [attach_eq hnode, if_pos hschema]
  exact ⟨id, rfl, hext, h.mono hext (h.wellFormed.setHandler id handler)⟩

/-- A command whose names are free is declared, and its root produces nothing. -/
theorem command_yields (hr : r.WellFormed) {data : CommandData H}
    (hfree : r.taken? data.names = none) : r.Yields (r.command data) [] := by
  have hr' : (r.push none data ⟨data.name, .literal⟩).1.WellFormed :=
    hr.move (.command r data hfree)
  have hnew : (r.push none data ⟨data.name, .literal⟩).1.node? r.size =
      some ⟨data, ⟨data.name, .literal⟩, r.depthBelow none, none, [], none⟩ := by
    rw [node?_push, if_pos rfl]
  have hschema : (r.push none data ⟨data.name, .literal⟩).1.schema r.size = [] := by
    rw [schema, path_root hnew rfl]
    simp [valueKind?_root hr' hnew rfl]
  simp only [command, hfree]
  exact ⟨r.size, rfl, extends_push r none data ⟨data.name, .literal⟩, hr', ⟨_, hnew⟩, hschema⟩

/-! ### The built-in commands -/

/-- **The help command is declared as a whole** if its names are free. -/
theorem addHelp_yields (hr : r.WellFormed) (hfree : r.taken? (helpData (H := H)).names = none) :
    r.Yields r.addHelp [] := by
  refine (command_yields hr hfree).andThen fun root r _ hroot => ?_
  refine (attach_yields hroot _ rfl).beside hroot fun _ r hroot _ => ?_
  refine (argument_yields hroot (by decide) rfl).beside hroot fun page r hroot hpage => ?_
  refine (attach_yields hpage _ rfl).beside hroot fun _ r hroot _ => ?_
  refine (argument_yields hroot (by decide) rfl).beside hroot fun name r hroot hname => ?_
  refine (attach_yields hname _ rfl).beside hroot fun _ r hroot _ => ?_
  exact .of_bears hroot

/-- Below a place to go to, all ways to decide the view are declared. -/
theorem addGazes_yields {place : NodeId} (subject : Subject)
    (hplace : r.Bears place (subject.params ++ [.location])) :
    ∃ kinds, r.Yields (r.addGazes place subject) kinds := by
  refine ⟨subject.params ++ [.location] ++ [.location] ++ [.boolean], ?_⟩
  -- The view of before.
  refine (argument_yields hplace (by decide) rfl).beside hplace fun blocks r hplace hblocks => ?_
  refine (attach_yields hblocks _ (by cases subject <;> rfl)).beside hplace fun _ r hplace _ => ?_
  -- Angles.
  refine (argument_yields hplace (by decide) rfl).beside hplace fun yaw r hplace hyaw => ?_
  refine (argument_yields hyaw (by decide) rfl).beside hplace fun pitch r hplace hpitch => ?_
  refine (argument_yields hpitch (by decide) rfl).beside hplace fun blocks r hplace hblocks => ?_
  refine (attach_yields hblocks _ (by cases subject <;> rfl)).beside hplace fun _ r hplace _ => ?_
  -- Someone or a place to face.
  refine (literal_yields hplace _).andThen fun facing r _ hfacing => ?_
  refine (argument_yields hfacing (by decide) rfl).beside hfacing
    fun entity r hfacing hentity => ?_
  refine (argument_yields hentity (by decide) rfl).beside hfacing
    fun blocks r hfacing hblocks => ?_
  refine (attach_yields hblocks _ (by cases subject <;> rfl)).beside hfacing
    fun _ r hfacing _ => ?_
  refine (location_yields hfacing _ (by decide)).andThen fun position r _ hposition => ?_
  refine (argument_yields hposition (by decide) rfl).andThen fun blocks r _ hblocks => ?_
  exact attach_yields hblocks _ (by cases subject <;> rfl)

/-- **The teleport command is declared as a whole** if its names are free. -/
theorem addTeleport_yields (hr : r.WellFormed)
    (hfree : r.taken? (teleportData (H := H)).names = none) : r.Yields r.addTeleport [] := by
  refine (command_yields hr hfree).andThen fun root r _ hroot => ?_
  -- The player goes to someone, or to a place.
  refine (argument_yields hroot (by decide) rfl).beside hroot fun player r hroot hplayer => ?_
  refine (attach_yields hplayer _ rfl).beside hroot fun _ r hroot _ => ?_
  refine (location_yields hroot _ (by decide)).beside hroot fun place r hroot hplace => ?_
  obtain ⟨_, hgazes⟩ := addGazes_yields .sender hplace
  refine hgazes.beside hroot fun _ r hroot _ => ?_
  -- Or someone else does; both the root and their node are used on.
  refine (argument_yields hroot (by decide) rfl).beside hroot fun victim r hroot hvictim => ?_
  refine (argument_yields hvictim (by decide) rfl).andThen fun player r hext hplayer => ?_
  replace hroot := hroot.mono hext hplayer.wellFormed
  replace hvictim := hvictim.mono hext hplayer.wellFormed
  refine (argument_yields hplayer (by decide) rfl).andThen fun blocks r hext hblocks => ?_
  replace hroot := hroot.mono hext hblocks.wellFormed
  replace hvictim := hvictim.mono hext hblocks.wellFormed
  refine (attach_yields hblocks _ rfl).andThen fun _ r hext hend => ?_
  replace hroot := hroot.mono hext hend.wellFormed
  replace hvictim := hvictim.mono hext hend.wellFormed
  refine (location_yields hvictim _ (by decide)).beside hroot fun place r hroot hplace => ?_
  obtain ⟨_, hgazes⟩ := addGazes_yields .victim hplace
  exact hgazes.beside hroot fun _ r hroot _ => .of_bears hroot

/-! ### Steps that fail -/

theorem andThen_of_taken {data : CommandData H} {next : NodeId → Registry H → Built H}
    {e : BuildError} (h : r.taken? data.names = some e) :
    (r.command data).andThen next = ⟨.error e, r⟩ := by
  simp only [command, h, Built.andThen]

/-- If all the rest is known to be declared once its names are free, a command can fail for nothing
but its names. -/
theorem andThen_eq_error_iff {data : CommandData H} {next : NodeId → Registry H → Built H}
    (hwhole : r.taken? data.names = none → r.Yields ((r.command data).andThen next) kinds)
    {e : BuildError} :
    ((r.command data).andThen next).result = .error e ↔ r.taken? data.names = some e := by
  cases htaken : r.taken? data.names with
  | some taken =>
    rw [andThen_of_taken htaken]
    simp
  | none =>
    obtain ⟨id, hid, -⟩ := hwhole htaken
    rw [hid]
    simp

theorem addHelp_eq_error_iff (hr : r.WellFormed) {e : BuildError} :
    r.addHelp.result = .error e ↔ r.taken? (helpData (H := H)).names = some e :=
  andThen_eq_error_iff (addHelp_yields hr)

theorem addTeleport_eq_error_iff (hr : r.WellFormed) {e : BuildError} :
    r.addTeleport.result = .error e ↔ r.taken? (teleportData (H := H)).names = some e :=
  andThen_eq_error_iff (addTeleport_yields hr)

theorem argument_unchanged {parent : NodeId} {a : Argument H} {e : BuildError}
    (h : (r.argument parent a).result = .error e) : (r.argument parent a).registry = r := by
  unfold argument at h ⊢
  cases hnode : r.node? parent with
  | none => rfl
  | some node => simp [hnode, Built.grown] at h

/-- A location that cannot be declared lacks a parent already, so not even its first axis is. -/
theorem location_unchanged (hr : r.WellFormed) {parent : NodeId} {name : String} {e : BuildError}
    (h : (r.location parent name).result = .error e) : (r.location parent name).registry = r := by
  by_cases hname : isTrailingName name = true
  · rw [location, if_pos hname] at h ⊢
    exact argument_unchanged h
  · cases hnode : r.node? parent with
    | none => simp only [location, if_neg hname, argument, hnode, Built.andThen]
    | some node =>
      have hbears : r.Bears parent (r.schema parent) := ⟨hr, ⟨node, hnode⟩, rfl⟩
      obtain ⟨id, hid, -⟩ := location_yields hbears name (by simpa using hname)
      rw [hid] at h
      cases h

/-- **A step that fails leaves the registry as it was.** -/
theorem apply_unchanged (hr : r.WellFormed) {step : BuildStep H} {e : BuildError}
    (h : (r.apply step).result = .error e) : (r.apply step).registry = r := by
  cases step with
  | command data =>
    have htaken : r.taken? data.names = some e := command_result_eq_error_iff.mp h
    simp only [apply, command, htaken]
  | argument parent a => exact argument_unchanged h
  | literal parent data =>
    simp only [apply, literal] at h ⊢
    cases hnode : r.node? parent with
    | none => rfl
    | some node => simp [hnode, Built.grown] at h
  | location parent name => exact location_unchanged hr h
  | attach id handler =>
    cases hnode : r.node? id with
    | none => simp only [apply, attach, hnode]
    | some node =>
      simp only [apply, attach_eq hnode] at h ⊢
      split at h
      · cases h
      · next hfit => rw [if_neg hfit]
  | help =>
    have htaken := (addHelp_eq_error_iff hr).mp h
    rw [apply, addHelp, andThen_of_taken htaken]
  | teleport =>
    have htaken := (addTeleport_eq_error_iff hr).mp h
    rw [apply, addTeleport, andThen_of_taken htaken]

/-- A step that does not fail declares all its nodes. -/
theorem size_apply {step : BuildStep H} (h : (r.apply step).result = .ok id) :
    (r.apply step).registry.size = r.size + step.origins.length :=
  size_eq_of_keeps (fun _ hP => apply_keeps hP r step) h

/-- **Every step does all it is there for, or nothing.**  One that fails leaves the registry as it
was, node by node; one that does not has declared all its nodes.  The built-in commands fail just
like a command of their names, that is, if another command answers to one of these, and never for a
handler of theirs that would not fit its node. -/
theorem apply_atomic (hr : r.Reachable) :
    (∀ step e, (r.apply step).result = .error e → (r.apply step).registry = r) ∧
    (∀ step id, (r.apply step).result = .ok id →
      (r.apply step).registry.size = r.size + step.origins.length) ∧
    ((∀ e, r.addHelp.result = .error e ↔ (r.command helpData).result = .error e) ∧
      ((∃ e, r.addHelp.result = .error e) ↔
        ∃ name ∈ ["help", "?", "h"], ∃ root, r.Answers root name)) ∧
    ((∀ e, r.addTeleport.result = .error e ↔ (r.command teleportData).result = .error e) ∧
      ((∃ e, r.addTeleport.result = .error e) ↔
        ∃ name ∈ ["teleport", "tp"], ∃ root, r.Answers root name)) ∧
    ∀ step ∈ [BuildStep.help, BuildStep.teleport], ∀ node expected found,
      (r.apply step).result ≠ .error (.signatureMismatch node expected found) := by
  have hwf := hr.wellFormed
  refine ⟨fun step e h => apply_unchanged hwf h, fun step id h => size_apply h, ⟨?_, ?_⟩,
    ⟨?_, ?_⟩, ?_⟩
  · intro e
    rw [addHelp_eq_error_iff hwf, command_result_eq_error_iff]
  · simp only [addHelp_eq_error_iff hwf]
    exact exists_taken?_iff
  · intro e
    rw [addTeleport_eq_error_iff hwf, command_result_eq_error_iff]
  · simp only [addTeleport_eq_error_iff hwf]
    exact exists_taken?_iff
  · -- What is reported of names that are taken is no signature.
    have hnames : ∀ names node expected found,
        r.taken? names ≠ some (.signatureMismatch node expected found) := by
      intro names node expected found h
      obtain ⟨_, _, _, _, _, _, _, he⟩ := taken?_eq_some_iff.mp h
      cases he
    intro step hstep node expected found h
    simp only [List.mem_cons, List.not_mem_nil, or_false] at hstep
    rcases hstep with rfl | rfl
    · exact hnames _ node expected found ((addHelp_eq_error_iff hwf).mp h)
    · exact hnames _ node expected found ((addTeleport_eq_error_iff hwf).mp h)

/-- Where `h` is an alias of another command the built-in help leaves nothing behind, not even the
nodes that do not need the name; the teleport command is declared with all its nodes. -/
theorem apply_atomic_near :
    nearTree.addHelp.result = .error (.duplicateRoot "h" "home") ∧
    nearTree.addHelp.registry = nearTree ∧
    nearTree.addTeleport.registry.size = nearTree.size + 33 := by
  obtain ⟨hunchanged, hsize, ⟨hhelp, -⟩, -, -⟩ := apply_atomic (r := nearTree) ⟨_, rfl⟩
  have hcommand : (nearTree.command helpData).result = .error (.duplicateRoot "h" "home") := by
    decide +kernel
  have hteleport : nearTree.addTeleport.result = .ok 5 := by decide +kernel
  have hfailed := (hhelp _).mpr hcommand
  exact ⟨hfailed, hunchanged .help _ hfailed, hsize .teleport 5 hteleport⟩

end Registry

end CommandTree
