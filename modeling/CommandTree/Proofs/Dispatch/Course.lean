import CommandTree.Dispatch
import CommandTree.Proofs.Resolve.Descent

/-!
# The courses of a dispatch

A dispatch can end at several stages.  They are told apart here once and for all,
each with what was found out on the way to it, so that later on a statement about
dispatches is a case for each course.

## Main definitions

* `Approach`, `Dispatcher.Approaches` — a command whose handler is known and whose
  values are about to be read.
* `Dispatcher.Course`, `Dispatcher.CallCourse` — the courses a dispatch and a call can take.
* `markDispatcher` — a small command for examples.

## Main results

* `dispatch_course`, `call_course` — every dispatch and every call takes one of them.
* `entry_eq_some` — how a handler comes to be entered.
-/

namespace CommandTree

variable {H : Host}

/-! ### The handler that is called -/

namespace Registry

variable {r : Registry H} {node : NodeId} {handler : Handler H}

/-- No handler is called just if neither the root nor any node of the path has one. -/
theorem deepestHandler?_eq_none : ∀ {path : List NodeId} {root : NodeId},
    r.deepestHandler? root path = none ↔
      r.handler? root = none ∧ ∀ id ∈ path, r.handler? id = none
  | [], root => by simp [deepestHandler?]
  | id :: path, root => by
    rw [deepestHandler?]
    cases hdeep : r.deepestHandler? id path with
    | none =>
      have hnone := deepestHandler?_eq_none.mp hdeep
      simp only [Option.map_eq_none_iff, List.forall_mem_cons]
      exact ⟨fun h => ⟨h, hnone⟩, fun h => h.1⟩
    | some found =>
      simp only [reduceCtorEq, List.forall_mem_cons, false_iff, not_and]
      intro _ hid hrest
      rw [deepestHandler?_eq_none.mpr ⟨hid, hrest⟩] at hdeep
      cases hdeep

/-- **The handler called is that of the deepest node that has one**: it is on `node`, to which
`taken` leads, and no node further down has any. -/
theorem deepestHandler?_eq_some : ∀ {path : List NodeId} {root : NodeId} {taken : List NodeId},
    r.deepestHandler? root path = some (node, handler, taken) →
    r.handler? node = some handler ∧ node = taken.getLastD root ∧
      ∃ below, path = taken ++ below ∧ ∀ id ∈ below, r.handler? id = none
  | [], root, taken, h => by
    rw [deepestHandler?] at h
    obtain ⟨handler', hh, heq⟩ := Option.map_eq_some_iff.mp h
    cases heq
    exact ⟨hh, rfl, [], rfl, by simp⟩
  | id :: path, root, taken, h => by
    rw [deepestHandler?] at h
    -- A handler further down goes before that of the root.
    cases hdeep : r.deepestHandler? id path with
    | some found =>
      obtain ⟨node', handler', taken'⟩ := found
      rw [hdeep] at h
      cases h
      obtain ⟨hh, hlast, below, rfl, hnone⟩ := deepestHandler?_eq_some hdeep
      exact ⟨hh, by rw [List.getLastD_cons]; exact hlast, below, rfl, hnone⟩
    | none =>
      rw [hdeep] at h
      obtain ⟨handler', hh, heq⟩ := Option.map_eq_some_iff.mp h
      cases heq
      exact ⟨hh, rfl, id :: path, rfl, List.forall_mem_cons.mpr (deepestHandler?_eq_none.mp hdeep)⟩

end Registry

/-! ### Approaches -/

/-- A command whose handler is known and whose values are about to be read. -/
structure Approach (H : Host) where
  /-- The first word. -/
  name : String
  /-- The other words. -/
  args : List String
  /-- The command that answers to the first word. -/
  root : NodeId
  /-- The session in which the command is found to be free for use. -/
  chosen : Session H
  /-- The path that the other words choose below the root. -/
  path : List NodeId
  /-- The state of the host after they have chosen it. -/
  resolved : H.State
  /-- The state after the player was found to be there still. -/
  host : H.State
  /-- The node whose handler is called. -/
  node : NodeId
  /-- The handler on it. -/
  handler : Handler H
  /-- The part of the path up to the node. -/
  taken : List NodeId

namespace Dispatcher

/-- The stages of a dispatch lead to the approach. -/
structure Approaches (d : Dispatcher H) (who : H.Who) (text : String) (s : Session H)
    (a : Approach H) : Prop where
  /-- The message is a command and splits into these words. -/
  words : d.words? text = some (a.name, a.args)
  /-- The first word chooses a command that the player may use now. -/
  selected : d.select who a.name s = (.ok a.root, a.chosen)
  /-- The other words choose a path. -/
  walked : d.registry.walk who a.root a.args a.chosen.host = (.ok a.path, a.resolved)
  /-- The player is still there. -/
  valid : H.isValid who a.resolved = (true, a.host)
  /-- The handler is that of the deepest node that has one. -/
  deepest : d.registry.deepestHandler? a.root a.path = some (a.node, a.handler, a.taken)

/-- The values that the handler of an approach is called with. -/
def values (d : Dispatcher H) (who : H.Who) (a : Approach H) : List (Value H.Who) :=
  (d.registry.extract who a.taken a.args a.host).1

/-- The session in which the handler of an approach is called. -/
def calling (d : Dispatcher H) (who : H.Who) (a : Approach H) : Session H :=
  { a.chosen with host := (d.registry.extract who a.taken a.args a.host).2 }

variable {d : Dispatcher H} {who : H.Who} {text : String} {s : Session H} {a : Approach H}

/-- The path of an approach is a descent from the root of its command. -/
theorem Approaches.descent (ha : d.Approaches who text s a) :
    ∃ last rest t, d.registry.Descent who a.root a.args a.chosen.host a.path last rest t ∧
      d.registry.Stops last rest t a.resolved :=
  Registry.walk_eq_ok ha.walked

/-- So is the part of it up to the node with the handler. -/
theorem Approaches.descent_taken (ha : d.Approaches who text s a) :
    ∃ rest t, d.registry.Descent who a.root a.args a.chosen.host a.taken a.node rest t := by
  obtain ⟨last, rest, t, hdescent, -⟩ := ha.descent
  obtain ⟨-, hnode, below, hpath, -⟩ := Registry.deepestHandler?_eq_some ha.deepest
  rw [hpath] at hdescent
  obtain ⟨mid, between, u, htaken, -⟩ := hdescent.split
  -- The cut is made at the node with the handler.
  have hmid : mid = a.node := htaken.last_eq.trans hnode.symm
  exact ⟨between, u, hmid ▸ htaken⟩

/-! ### Courses -/

/-- What became of a message, after the player was told of it. -/
def tell (who : H.Who) (x : Dispatched H) : Dispatched H :=
  { x with
    session := { x.session with host := H.deliverAll who (notices x.outcome) x.session.host } }

@[simp] theorem tell_outcome (who : H.Who) (x : Dispatched H) : (tell who x).outcome = x.outcome :=
  rfl

@[simp] theorem tell_entry (who : H.Who) (x : Dispatched H) : (tell who x).entry = x.entry := rfl

@[simp] theorem tell_clock (who : H.Who) (x : Dispatched H) :
    (tell who x).session.clock = x.session.clock := rfl

@[simp] theorem tell_cooldowns (who : H.Who) (x : Dispatched H) :
    (tell who x).session.cooldowns = x.session.cooldowns := rfl

@[simp] theorem tell_host (who : H.Who) (x : Dispatched H) :
    (tell who x).session.host = H.deliverAll who (notices x.outcome) x.session.host := rfl

/-- The courses a dispatch can take. -/
inductive Course (d : Dispatcher H) (who : H.Who) (text : String) (s : Session H) :
    Dispatched H → Prop
  /-- The message is no command. -/
  | ignored (hw : d.words? text = none) : Course d who text s ⟨.ignored, none, s⟩
  /-- The first word chooses no command that the player may use now. -/
  | refused {name : String} {args : List String} {failure : Failure} {s₁ : Session H}
    (hw : d.words? text = some (name, args)) (hs : d.select who name s = (.error failure, s₁)) :
    Course d who text s (tell who ⟨.failed failure, none, s₁⟩)
  /-- The other words choose no path that the player may use. -/
  | unresolved {name : String} {args : List String} {root : NodeId} {s₁ : Session H}
    {failure : Failure} {h : H.State} (hw : d.words? text = some (name, args))
    (hs : d.select who name s = (.ok root, s₁))
    (hr : d.resolve who root args s₁.host = (.error failure, h)) :
    Course d who text s (tell who ⟨.failed failure, none, { s₁ with host := h }⟩)
  /-- The player has left by the time the path is chosen. -/
  | gone {name : String} {args : List String} {root : NodeId} {s₁ : Session H}
    {path : List NodeId} {h h' : H.State} (hw : d.words? text = some (name, args))
    (hs : d.select who name s = (.ok root, s₁))
    (hr : d.registry.walk who root args s₁.host = (.ok path, h))
    (hv : H.isValid who h = (false, h')) :
    Course d who text s (tell who ⟨.senderGone, none, { s₁ with host := h' }⟩)
  /-- There is no handler along the path. -/
  | incomplete {name : String} {args : List String} {root : NodeId} {s₁ : Session H}
    {path : List NodeId} {h h' : H.State} (hw : d.words? text = some (name, args))
    (hs : d.select who name s = (.ok root, s₁))
    (hr : d.registry.walk who root args s₁.host = (.ok path, h))
    (hv : H.isValid who h = (true, h')) (hd : d.registry.deepestHandler? root path = none) :
    Course d who text s (tell who
      ⟨.failed (.incomplete (d.sigil ++ d.registry.describe ((path.getLast?).getD root))), none,
        { s₁ with host := h' }⟩)
  /-- A handler is called. -/
  | called {a : Approach H} (ha : d.Approaches who text s a) :
    Course d who text s
      (tell who (d.call who a.root a.node a.handler (d.values who a) (d.calling who a)))

/-- Words are resolved just if the walk over them ends well. -/
theorem resolve_eq_ok {root : NodeId} {args : List String} {path : List NodeId} {h h' : H.State} :
    d.resolve who root args h = (.ok path, h') ↔
      d.registry.walk who root args h = (.ok path, h') := by
  rw [resolve, Registry.resolve]
  cases hwalk : d.registry.walk who root args h with
  | mk walked t =>
    cases walked with
    | ok path => simp
    | error halt =>
      cases halt with
      | stuck id rest => simp
      | denied id => cases hnode : d.registry.node? id <;> simp [hnode]

/-- Naming a node that may not be used does nothing to the host. -/
theorem resolve_snd (d : Dispatcher H) (who : H.Who) (root : NodeId) (args : List String)
    (h : H.State) : (d.resolve who root args h).2 = (d.registry.walk who root args h).2 := by
  rw [← Registry.resolve_snd d.registry who d.sigil, resolve]
  split
  · next hres => rw [hres]
  · next hres => rw [hres]
  · next hres => rw [hres]; split <;> rfl

/-- **Every dispatch takes one of the courses.** -/
theorem dispatch_course (d : Dispatcher H) (who : H.Who) (text : String) (s : Session H) :
    d.Course who text s (d.dispatch who text s) := by
  rw [dispatch]
  cases hw : d.words? text with
  | none => exact .ignored hw
  | some words =>
    obtain ⟨name, args⟩ := words
    change d.Course who text s (tell who (d.attempt who name args s))
    rw [attempt]
    cases hs : d.select who name s with
    | mk chosen s₁ =>
      cases chosen with
      | error failure => exact .refused hw hs
      | ok root =>
        simp only
        cases hr : d.resolve who root args s₁.host with
        | mk resolved h =>
          cases resolved with
          | error failure => exact .unresolved hw hs hr
          | ok path =>
            have hwalk := resolve_eq_ok.mp hr
            simp only [follow]
            cases hv : H.isValid who h with
            | mk valid h' =>
              cases valid with
              | false => exact .gone hw hs hwalk hv
              | true =>
                simp only
                cases hd : d.registry.deepestHandler? root path with
                | none => exact .incomplete hw hs hwalk hv hd
                | some found =>
                  obtain ⟨node, handler, taken⟩ := found
                  exact .called (a := ⟨name, args, root, s₁, path, h, h', node, handler, taken⟩)
                    ⟨hw, hs, hwalk, hv, hd⟩

/-- A dispatch whose stages lead to an approach calls its handler. -/
theorem Approaches.dispatch_eq (ha : d.Approaches who text s a) :
    d.dispatch who text s =
      tell who (d.call who a.root a.node a.handler (d.values who a) (d.calling who a)) := by
  simp only [dispatch, ha.words, attempt, ha.selected, resolve_eq_ok.mpr ha.walked, follow,
    ha.valid, ha.deepest]
  rfl

/-! ### Calls -/

variable {root node : NodeId} {handler : Handler H} {values : List (Value H.Who)} {h h' : H.State}

/-- A handler that finds the player gone does nothing. -/
theorem call_eq_gone (hv : H.isValid who s.host = (false, h)) :
    d.call who root node handler values s =
      ⟨.senderGone, none, { s with host := (H.isValid who h).2 }⟩ := by
  rw [call, hv]

/-- What becomes of a command after its handler has come to an end, with or without having been
entered. -/
def closing (d : Dispatcher H) (who : H.Who) (root node : NodeId) (entered : Option (Entry H))
    (reply : Reply H) (s : Session H) : Dispatched H :=
  let after : Session H :=
    { s with host := (H.isValid who reply.state).2, clock := s.clock + reply.elapsed }
  if (H.isValid who reply.state).1 then
    let outcome := conclude (d.registry.describe node) reply.ending
    ⟨outcome, entered, if outcome = .executed then d.recordUse who root after else after⟩
  else ⟨.senderGone, entered, after⟩

/-- The reply that stands for a value which does not convert to the kind it should. -/
def mismatched (kind : ValueKind) (h : H.State) : Reply H :=
  ⟨.error ("argument does not convert to " ++ kind.word) [], 0, h⟩

/-- A handler is not entered with values that do not suit it. -/
theorem call_eq_mismatch {kind : ValueKind} (hv : H.isValid who s.host = (true, h))
    (hk : firstMismatch? handler.params values = some kind) :
    d.call who root node handler values s =
      d.closing who root node none (mismatched kind h) { s with host := h } := by
  simp only [call, hv, invoke, hk]
  rfl

/-- A handler is entered with values that suit it. -/
theorem call_eq_entered (hv : H.isValid who s.host = (true, h))
    (hk : firstMismatch? handler.params values = none) :
    d.call who root node handler values s =
      let entry : Entry H := ⟨node, handler, values.take handler.params.length⟩
      d.closing who root node (some entry)
        (handler.task.perform d.program ⟨who, d.registry, d.sigil, node⟩ entry.values h)
        { s with host := h } := by
  simp only [call, hv, invoke, hk]
  rfl

/-- The courses a call can take. -/
inductive CallCourse (d : Dispatcher H) (who : H.Who) (root node : NodeId) (handler : Handler H)
    (values : List (Value H.Who)) (s : Session H) : Dispatched H → Prop
  /-- The player has left before the handler begins. -/
  | gone {h : H.State} (hv : H.isValid who s.host = (false, h)) :
    CallCourse d who root node handler values s
      ⟨.senderGone, none, { s with host := (H.isValid who h).2 }⟩
  /-- The values do not suit the handler. -/
  | mismatch {h : H.State} {kind : ValueKind} (hv : H.isValid who s.host = (true, h))
    (hk : firstMismatch? handler.params values = some kind) :
    CallCourse d who root node handler values s
      (d.closing who root node none (mismatched kind h) { s with host := h })
  /-- The handler is entered. -/
  | entered {h : H.State} (hv : H.isValid who s.host = (true, h))
    (hk : firstMismatch? handler.params values = none) :
    CallCourse d who root node handler values s
      (d.closing who root node (some ⟨node, handler, values.take handler.params.length⟩)
        (handler.task.perform d.program ⟨who, d.registry, d.sigil, node⟩
          (values.take handler.params.length) h)
        { s with host := h })

/-- **Every call takes one of the courses.** -/
theorem call_course (d : Dispatcher H) (who : H.Who) (root node : NodeId) (handler : Handler H)
    (values : List (Value H.Who)) (s : Session H) :
    d.CallCourse who root node handler values s (d.call who root node handler values s) := by
  cases hv : H.isValid who s.host with
  | mk valid h =>
    cases valid with
    | false => rw [call_eq_gone hv]; exact .gone hv
    | true =>
      cases hk : firstMismatch? handler.params values with
      | some kind => rw [call_eq_mismatch hv hk]; exact .mismatch hv hk
      | none => rw [call_eq_entered hv hk]; exact .entered hv hk

@[simp] theorem closing_entry (d : Dispatcher H) (who : H.Who) (root node : NodeId)
    (entered : Option (Entry H)) (reply : Reply H) (s : Session H) :
    (d.closing who root node entered reply s).entry = entered := by
  rw [closing]
  split <;> rfl

@[simp] theorem closing_outcome (d : Dispatcher H) (who : H.Who) (root node : NodeId)
    (entered : Option (Entry H)) (reply : Reply H) (s : Session H) :
    (d.closing who root node entered reply s).outcome =
      if (H.isValid who reply.state).1 then conclude (d.registry.describe node) reply.ending
      else .senderGone := by
  rw [closing]
  split <;> rfl

@[simp] theorem closing_clock (d : Dispatcher H) (who : H.Who) (root node : NodeId)
    (entered : Option (Entry H)) (reply : Reply H) (s : Session H) :
    (d.closing who root node entered reply s).session.clock = s.clock + reply.elapsed := by
  simp only [closing, recordUse]
  repeat' split
  all_goals rfl

@[simp] theorem closing_host (d : Dispatcher H) (who : H.Who) (root node : NodeId)
    (entered : Option (Entry H)) (reply : Reply H) (s : Session H) :
    (d.closing who root node entered reply s).session.host = (H.isValid who reply.state).2 := by
  simp only [closing, recordUse]
  repeat' split
  all_goals rfl

/-- Only a command that was executed is recorded, at the time when its handler has ended. -/
@[simp] theorem closing_cooldowns (d : Dispatcher H) (who : H.Who) (root node : NodeId)
    (entered : Option (Entry H)) (reply : Reply H) (s : Session H) :
    (d.closing who root node entered reply s).session.cooldowns =
      if (d.closing who root node entered reply s).outcome = .executed ∧
        ((d.registry.node? root).bind (·.data.cooldown)).isSome then
        s.cooldowns.record (H.name who, root) (s.clock + reply.elapsed)
      else s.cooldowns := by
  rw [closing_outcome]
  simp only [closing, recordUse]
  by_cases hstay : (H.isValid who reply.state).1 = true
  · by_cases hdone : conclude (d.registry.describe node) reply.ending = .executed
    · by_cases hcooldown : ((d.registry.node? root).bind (·.data.cooldown)).isSome = true
      · simp only [hstay, hdone, hcooldown, if_true, and_self]
      · simp only [hstay, hdone, hcooldown, if_true, if_false, and_false, Bool.false_eq_true]
    · simp only [hstay, hdone, if_true, if_false, false_and]
  · simp only [hstay, if_false, reduceCtorEq, false_and, Bool.false_eq_true]

/-- A call enters the handler just if the player is there and the values suit the handler. -/
theorem call_entry_eq_some {e : Entry H} :
    (d.call who root node handler values s).entry = some e ↔
      (H.isValid who s.host).1 = true ∧ firstMismatch? handler.params values = none ∧
        e = ⟨node, handler, values.take handler.params.length⟩ := by
  have hcall := call_course d who root node handler values s
  generalize d.call who root node handler values s = x at hcall ⊢
  cases hcall with
  | gone hv => simp [hv]
  | mismatch hv hk => simp [hv, hk]
  | entered hv hk => simp [hv, hk, eq_comm]

/-- A call ends with the player gone, or as its handler has ended. -/
theorem call_outcome_cases (d : Dispatcher H) (who : H.Who) (root node : NodeId)
    (handler : Handler H) (values : List (Value H.Who)) (s : Session H) :
    (d.call who root node handler values s).outcome = .senderGone ∨
      ∃ ending, (d.call who root node handler values s).outcome =
        conclude (d.registry.describe node) ending := by
  have hclosing : ∀ entered reply (s : Session H),
      (d.closing who root node entered reply s).outcome = .senderGone ∨
        ∃ ending, (d.closing who root node entered reply s).outcome =
          conclude (d.registry.describe node) ending := by
    intro entered reply s
    rw [closing_outcome]
    split
    · exact .inr ⟨reply.ending, rfl⟩
    · exact .inl rfl
  have hcall := call_course d who root node handler values s
  generalize d.call who root node handler values s = x at hcall ⊢
  cases hcall with
  | gone hv => exact .inl rfl
  | mismatch hv hk => exact hclosing _ _ _
  | entered hv hk => exact hclosing _ _ _

/-- **How a handler comes to be entered**: the stages lead to an approach, the player is there
when the handler begins, and the values read suit it. -/
theorem entry_eq_some {e : Entry H} (h : (d.dispatch who text s).entry = some e) :
    ∃ a, d.Approaches who text s a ∧ (H.isValid who (d.calling who a).host).1 = true ∧
      firstMismatch? a.handler.params (d.values who a) = none ∧
      e = ⟨a.node, a.handler, (d.values who a).take a.handler.params.length⟩ := by
  have hcourse := dispatch_course d who text s
  generalize d.dispatch who text s = x at h hcourse
  cases hcourse with
  | called ha =>
    obtain ⟨hv, hk, he⟩ := call_entry_eq_some.mp h
    exact ⟨_, ha, hv, hk, he⟩
  | ignored _ => cases h
  | refused _ _ => cases h
  | unresolved _ _ _ => cases h
  | gone _ _ _ _ => cases h
  | incomplete _ _ _ _ _ => cases h

end Dispatcher

/-! ### A command to try things on -/

/-- The command `-mark <who> <command>`, also called `m`, still without its handler: for operators,
and for each of them not again within five ticks. -/
def markTree (H : Host) : Registry H :=
  Registry.ofSteps [.command ⟨"mark", "", ["m"], some H.isOp, none, false, some 5⟩,
    .argument 0 ⟨"who", .player⟩, .argument 1 ⟨"command", .custom (commandNameType H)⟩]

/-- A dispatcher for this command alone. -/
def markDispatcher (H : Host) (action : H.Action) (program : Program H) : Dispatcher H :=
  ⟨((markTree H).attach 2 ⟨[.player, .text], .host action⟩).registry, "-", program,
    fun _ _ => none⟩

/-- Steps build it. -/
theorem reachable_mark (H : Host) (action : H.Action) (program : Program H) :
    (markDispatcher H action program).registry.Reachable :=
  ⟨[.command ⟨"mark", "", ["m"], some H.isOp, none, false, some 5⟩, .argument 0 ⟨"who", .player⟩,
    .argument 1 ⟨"command", .custom (commandNameType H)⟩,
    .attach 2 ⟨[.player, .text], .host action⟩], rfl⟩

/-- Its only type that is not built in is that of command names. -/
theorem custom_mark {action : H.Action} {program : Program H} {id : NodeId} {node : Node H}
    {type : CustomType H} (hnode : (markDispatcher H action program).registry.node? id = some node)
    (htype : node.argument.type = .custom type) : type = commandNameType H := by
  obtain ⟨old, hold, hs⟩ := Registry.exists_node?_of_attach hnode
  have harguments : (markTree H).nodes.toList.map Node.argument =
      [⟨"mark", .literal⟩, ⟨"who", .player⟩, ⟨"command", .custom (commandNameType H)⟩] := rfl
  have hmem : node.argument ∈ (markTree H).nodes.toList.map Node.argument :=
    hs.argument ▸ List.mem_map_of_mem (Array.mem_def.mp (Array.mem_of_getElem? hold))
  rw [harguments] at hmem
  rcases List.mem_cons.mp hmem with h | hmem
  · rw [h] at htype; cases htype
  rcases List.mem_cons.mp hmem with h | hmem
  · rw [h] at htype; cases htype
  rw [List.mem_singleton.mp hmem] at htype
  cases htype
  rfl

end CommandTree
