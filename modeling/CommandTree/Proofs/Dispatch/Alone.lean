import CommandTree.Proofs.Dispatch.Readings
import CommandTree.Proofs.Registry.Beside

/-!
# Commands by themselves

A built-in command is declared in the same way in every registry, only that its nodes
stand further on.  As long as no other step builds on these nodes they stay as they are.
So it is enough to know the command in a registry that has no others: what words lead to,
which handler is called and which values it gets is the same there, up to the positions of
the nodes.

## Main definitions

* `Registry.SelfContained` — no argument looks at the names of commands.
* `Registry.leavesAlone` — no step of a list builds on given nodes.
* `Halt.moved` — why a walk did not end well, with nodes in other positions.

## Main results

* `Within.walk_eq`, `Within.readings_eq`, `Within.deepestHandler?_eq` — **what is the same**.
* `within_apply` — a built-in command as it stands by itself.
* `Within.after` — it stays so.
-/

namespace CommandTree

variable {H : Host}

/-- The same reason with the nodes renamed. -/
def Halt.moved (f : NodeId → NodeId) : Halt → Halt
  | .denied id => .denied (f id)
  | .stuck id rest => .stuck (f id) rest

namespace Registry

variable {t r : Registry H} {f : NodeId → NodeId} {who : H.Who} {id : NodeId} {node : Node H}

/-- What arguments make of a word does not depend on the names of commands. -/
def SelfContained (t : Registry H) : Prop :=
  ∀ {id node}, t.node? id = some node → ∀ names names',
    node.argument.accept names = node.argument.accept names'

/-- Types that are built in do not look at the names of commands. -/
theorem SelfContained.of_types
    (h : ∀ {id node}, t.node? id = some node → ∀ type, node.argument.type ≠ .custom type) :
    t.SelfContained := by
  intro id node hnode names names'
  rcases hargument : node.argument with ⟨name, type⟩
  cases type with
  | custom type => exact absurd (by rw [hargument]) (h hnode type)
  | _ => rfl

/-! ### What is the same -/

section Same

variable (h : t.Within f r)

include h

theorem Within.children_eq (hnode : t.node? id = some node) :
    r.children (f id) = (t.children id).map f := by
  rw [Registry.children_eq hnode, Registry.children_eq (h.node hnode)]
  rfl

theorem Within.handler?_eq (hnode : t.node? id = some node) :
    r.handler? (f id) = t.handler? id := by
  rw [Registry.handler?_eq hnode, Registry.handler?_eq (h.node hnode)]
  rfl

theorem Within.permits_eq (hnode : t.node? id = some node) (s : H.State) :
    r.permits s who (f id) = t.permits s who id := by
  rw [permits, permits, hnode, h.node hnode]
  rfl

variable (hself : t.SelfContained)

include hself

theorem Within.accepts_eq (hnode : t.node? id = some node) (word : String) (s : H.State) :
    r.accepts (f id) word s = t.accepts id word s := by
  have hsame : (node.moved f).argument.accept r.commandNames =
      node.argument.accept t.commandNames := hself hnode _ _
  rw [Registry.accepts_eq hnode, Registry.accepts_eq (h.node hnode), hsame]

theorem Within.firstAccepting_eq (word : String) {ids : List NodeId} (s : H.State)
    (hids : ∀ id ∈ ids, ∃ node, t.node? id = some node) :
    r.firstAccepting word (ids.map f) s =
      ((t.firstAccepting word ids s).1.map f, (t.firstAccepting word ids s).2) := by
  induction ids generalizing s with
  | nil => rfl
  | cons id ids ih =>
    obtain ⟨node, hnode⟩ := hids id List.mem_cons_self
    rw [List.map_cons, firstAccepting, firstAccepting, h.accepts_eq hself hnode]
    cases t.accepts id word s with
    | mk taken s' =>
      cases taken with
      | true => rfl
      | false => exact ih s' fun id hid => hids id (List.mem_cons_of_mem _ hid)

/-- **The same words lead to corresponding nodes**, and get stuck or are refused at such. -/
theorem Within.walk_eq (words : List String) (hnode : t.node? id = some node) (s : H.State) :
    r.walk who (f id) words s =
      (((t.walk who id words s).1.map (List.map f)).mapError (Halt.moved f),
        (t.walk who id words s).2) := by
  have hchildren := h.children_eq hnode
  have hhandler : r.hasHandler (f id) = t.hasHandler id := by
    rw [hasHandler, hasHandler, h.handler?_eq hnode]
  have hempty : (r.children (f id)).isEmpty = (t.children id).isEmpty := by
    rw [hchildren, List.isEmpty_map]
  induction words generalizing id node s with
  | nil =>
    rw [walk, walk, hempty, hhandler]
    split <;> rfl
  | cons word words ih =>
    have hbelow : ∀ c ∈ t.children id, ∃ child, t.node? c = some child := by
      intro c hc
      obtain ⟨child, hchild, -⟩ := node?_of_mem_children h.source hc
      exact ⟨child, hchild⟩
    rw [walk, walk, hempty, hhandler, hchildren, h.firstAccepting_eq hself word s hbelow]
    split
    · rfl
    · cases htake : t.firstAccepting word (t.children id) s with
      | mk chosen s' =>
        cases chosen with
        | none =>
          simp only [Option.map_none]
          split <;> rfl
        | some child =>
          obtain ⟨node', hnode'⟩ := hbelow child (firstAccepting_mem htake)
          have hwalk := ih hnode' s' (h.children_eq hnode')
            (by rw [hasHandler, hasHandler, h.handler?_eq hnode'])
            (by rw [h.children_eq hnode', List.isEmpty_map])
          simp only [Option.map_some, h.permits_eq hnode', hwalk]
          split
          · cases t.walk who child words s' with
            | mk answer u => cases answer <;> rfl
          · rfl

/-- **The same words are read as the same values** along corresponding paths. -/
theorem Within.readings_eq {path : List NodeId} (words : List String) (s : H.State)
    (hpath : ∀ id ∈ path, ∃ node, t.node? id = some node) :
    r.readings who (path.map f) words s = t.readings who path words s := by
  induction path generalizing words s with
  | nil => cases words <;> rfl
  | cons id path ih =>
    cases words with
    | nil => rfl
    | cons word words =>
      obtain ⟨node, hnode⟩ := hpath id List.mem_cons_self
      have hsame : (node.moved f).argument.accept r.commandNames =
          node.argument.accept t.commandNames := hself hnode _ _
      have hrest := fun s => ih words s fun id hid => hpath id (List.mem_cons_of_mem _ hid)
      rw [List.map_cons, readings_cons hnode, readings_cons (h.node hnode), valueKind?_eq hnode,
        valueKind?_eq (h.node hnode)]
      simp only [Node.stateAfter, Node.reads, hsame, hrest]
      rfl

omit hself

/-- **Corresponding paths lead to the same handler.** -/
theorem Within.deepestHandler?_eq {path : List NodeId} (hnode : t.node? id = some node)
    (hpath : ∀ id ∈ path, ∃ node, t.node? id = some node) :
    r.deepestHandler? (f id) (path.map f) = (t.deepestHandler? id path).map
      fun (node, handler, taken) => (f node, handler, taken.map f) := by
  induction path generalizing id node with
  | nil =>
    rw [List.map_nil, deepestHandler?, deepestHandler?, h.handler?_eq hnode]
    cases t.handler? id <;> rfl
  | cons j path ih =>
    obtain ⟨node', hnode'⟩ := hpath j List.mem_cons_self
    have hbelow := ih hnode' fun id hid => hpath id (List.mem_cons_of_mem _ hid)
    rw [List.map_cons, deepestHandler?, deepestHandler?, hbelow, h.handler?_eq hnode]
    cases t.deepestHandler? j path with
    | some found => rfl
    | none => cases t.handler? id <;> rfl

end Same

/-! ### As a command stands by itself -/

/-- **A command stands in any registry as it does by itself**, at the end. -/
theorem within_apply (hr : r.WellFormed) {step : BuildStep H} {data : CommandData H}
    (hroot : step.root? = some data) {root root' : NodeId}
    (halone : ((empty : Registry H).apply step).result = .ok root)
    (hok : (r.apply step).result = .ok root') :
    ((empty : Registry H).apply step).registry.Within (r.size + ·) (r.apply step).registry := by
  have hmoved : step.moved (r.size + ·) = step := by
    cases step with
    | command _ | help | teleport => rfl
    | _ => cases hroot
  have happly := (alongside_empty hr).apply_root hroot halone (hmoved.symm ▸ hok)
  rw [hmoved] at happly
  exact happly.within

/-- Whether no step that ends well builds on any of the nodes from `n` on that are less than `m`. -/
def leavesAlone (n m : Nat) : Registry H → List (BuildStep H) → Bool
  | _, [] => true
  | r, step :: steps =>
    (!(r.apply step).result.isOk || step.base?.all fun base => base < n || m ≤ base) &&
      leavesAlone n m (r.apply step).registry steps

theorem leavesAlone_cons_iff {n m : Nat} {step : BuildStep H} {steps : List (BuildStep H)} :
    leavesAlone n m r (step :: steps) = true ↔
      ((r.apply step).result.isOk = true → ∀ base ∈ step.base?, base < n ∨ m ≤ base) ∧
        leavesAlone n m (r.apply step).registry steps = true := by
  rw [leavesAlone, Bool.and_eq_true]
  cases (r.apply step).result.isOk <;> cases step.base? <;> simp

/-- A step that builds on none of the nodes leaves them in their place. -/
theorem Within.apply (h : t.Within f r) {step : BuildStep H}
    (hbase : (r.apply step).result.isOk = true → ∀ base ∈ step.base?, ∀ j < t.size, f j ≠ base) :
    t.Within f (r.apply step).registry where
  source := h.source
  target := h.target.grows (apply_grows r step)
  mono := h.mono
  node {id node} hnode := by
    cases hresult : (r.apply step).result with
    | error e =>
      rw [apply_unchanged h.target hresult]
      exact h.node hnode
    | ok _ =>
      refine apply_node? h.target (h.node hnode) fun base hstep heq => ?_
      exact hbase (by rw [hresult]; rfl) base hstep id (node?_lt hnode) heq.symm

/-- **It stays so** as long as no other step builds on its nodes. -/
theorem Within.after {n m : Nat} {steps : List (BuildStep H)} (h : t.Within (n + ·) r)
    (hm : n + t.size ≤ m) (halone : leavesAlone n m r steps = true) :
    t.Within (n + ·) (r.after steps) := by
  induction steps generalizing r with
  | nil => exact h
  | cons step steps ih =>
    obtain ⟨hbase, halone⟩ := leavesAlone_cons_iff.mp halone
    refine ih (h.apply fun hok base hstep j hj => ?_) halone
    rcases hbase hok base hstep with hlt | hle
    · exact Nat.ne_of_gt (Nat.lt_of_lt_of_le hlt (Nat.le_add_right n j))
    · exact Nat.ne_of_lt (Nat.lt_of_lt_of_le (Nat.add_lt_add_left hj n) (Nat.le_trans hm hle))

end Registry

end CommandTree
