import CommandTree.Proofs.Registry.Embedding
import CommandTree.Proofs.Registry.Parts

/-!
# Registries built side by side

Two registries are built by the same steps, except that the second one is given more
commands in between, none of which a certain player is shown.  Every step is made of
small moves, and those of a step that is made in both registries correspond if the next
nodes to be declared do.  So the first registry stands within the second one.

## Main definitions

* `BuildStep.moved` — a step on the node that corresponds.
* `Registry.Alongside` — registries of which one stands within the other and will go on to do so.
* `Registry.Abreast` — the same, and the other commands are hidden.
* `Registry.Beside` — two registries that are built side by side.

## Main results

* `Alongside.apply`, `Alongside.apply_root` — a step in both registries.
* `Abreast.embeds_apply` — what it declares in the second one corresponds to something.
* `Embeds.apply_hidden`, `Embeds.apply_root_hidden` — a step in the second only.
* `Beside.embeds` — **registries built side by side** correspond node by node.
-/

namespace CommandTree

variable {H : Host}

/-- The step that goes on from the node renamed. -/
def BuildStep.moved (f : NodeId → NodeId) : BuildStep H → BuildStep H
  | .argument parent a => .argument (f parent) a
  | .literal parent data => .literal (f parent) data
  | .location parent name => .location (f parent) name
  | .attach id handler => .attach (f id) handler
  | step => step

namespace Registry

variable {m : H.State} {who : H.Who} {r r' : Registry H} {f : NodeId → NodeId}

/-! ### Steps in both registries -/

/-- The first registry stands within the second one, and so will their next nodes. -/
structure Alongside (r : Registry H) (f : NodeId → NodeId) (r' : Registry H) : Prop where
  within : r.Within f r'
  ahead : ∀ k, f (r.size + k) = r'.size + k

/-- Registries that correspond, and whose next nodes will correspond. -/
structure Abreast (m : H.State) (who : H.Who) (r : Registry H) (f : NodeId → NodeId)
    (r' : Registry H) : Prop where
  embeds : r.Embeds m who f r'
  ahead : ∀ k, f (r.size + k) = r'.size + k

theorem Abreast.alongside (h : r.Abreast m who f r') : r.Alongside f r' :=
  ⟨h.embeds.within, h.ahead⟩

/-- The registry without nodes stands before any other. -/
theorem alongside_empty (hr' : r'.WellFormed) :
    (empty : Registry H).Alongside (r'.size + ·) r' where
  within := within_empty hr' _
  ahead k := by
    show r'.size + (0 + k) = r'.size + k
    rw [Nat.zero_add]

theorem Alongside.node?_eq_none (h : r.Alongside f r') {id : NodeId} (hid : r.node? id = none) :
    r'.node? (f id) = none := by
  obtain ⟨k, rfl⟩ := Nat.exists_eq_add_of_le (node?_eq_none_iff.mp hid)
  rw [h.ahead k]
  exact node?_eq_none_iff.mpr (Nat.le_add_right _ _)

theorem Alongside.push (h : r.Alongside f r') {parent : Option NodeId}
    (hparent : ∀ p, parent = some p → ∃ above, r.node? p = some above)
    {data : CommandData H} {a : Argument H} (hroot : parent = none → a = ⟨data.name, .literal⟩) :
    (r.push parent data a).1.Alongside f (r'.push (parent.map f) data a).1 where
  within := h.within.push (h.ahead 0) hparent hroot
  ahead k := by
    rw [size_push, size_push, Nat.add_assoc, Nat.add_assoc, h.ahead]

theorem Alongside.push_below (h : r.Alongside f r') {parent : NodeId} {node : Node H}
    (hparent : r.node? parent = some node) (data : CommandData H) (a : Argument H) :
    (r.push (some parent) data a).1.Alongside f (r'.push (some (f parent)) data a).1 :=
  h.push (fun _ hp => Option.some.inj hp ▸ ⟨node, hparent⟩) (fun hnone => nomatch hnone)

theorem Alongside.argument (h : r.Alongside f r') (parent : NodeId) (a : Argument H) :
    (r.argument parent a).registry.Alongside f (r'.argument (f parent) a).registry := by
  unfold Registry.argument
  cases hnode : r.node? parent with
  | none =>
    rw [h.node?_eq_none hnode]
    exact h
  | some node =>
    rw [h.within.node hnode]
    exact h.push_below hnode node.data a

theorem Alongside.literal (h : r.Alongside f r') (parent : NodeId) (data : CommandData H) :
    (r.literal parent data).registry.Alongside f (r'.literal (f parent) data).registry := by
  unfold Registry.literal
  cases hnode : r.node? parent with
  | none =>
    rw [h.node?_eq_none hnode]
    exact h
  | some node =>
    rw [h.within.node hnode]
    exact h.push_below hnode data _

theorem Alongside.attach (h : r.Alongside f r') (id : NodeId) (handler : Handler H) :
    (r.attach id handler).registry.Alongside f (r'.attach (f id) handler).registry := by
  cases hnode : r.node? id with
  | none =>
    simp only [Registry.attach, hnode, h.node?_eq_none hnode]
    exact h
  | some node =>
    rw [attach_eq hnode, attach_eq (h.within.node hnode), h.within.schema_eq hnode]
    split
    · refine ⟨h.within.setHandler (node?_lt hnode) handler, fun k => ?_⟩
      rw [size_setHandler, size_setHandler, h.ahead]
    · exact h

theorem locationParts_moved {n n' : Nat} (hahead : ∀ k, f (n + k) = n' + k) (parent : NodeId)
    (name : String) :
    (locationParts parent n name).map (BuildStep.moved f) =
      (locationParts (f parent) n' name : List (BuildStep H)) := by
  have hfirst : f n = n' := hahead 0
  unfold locationParts
  split <;> simp [BuildStep.moved, hfirst, hahead]

/-- Steps in both registries keep them alongside if each of them does. -/
theorem Alongside.after_of_apply {steps : List (BuildStep H)}
    (happly : ∀ step ∈ steps, ∀ r r' : Registry H, r.Alongside f r' →
      (r.apply step).registry.Alongside f (r'.apply (step.moved f)).registry)
    (h : r.Alongside f r') :
    (r.after steps).Alongside f (r'.after (steps.map (BuildStep.moved f))) := by
  induction steps generalizing r r' with
  | nil => exact h
  | cons step steps ih =>
    exact ih (fun step hstep => happly step (List.mem_cons_of_mem _ hstep))
      (happly step List.mem_cons_self r r' h)

theorem Alongside.location (h : r.Alongside f r') (parent : NodeId) (name : String) :
    (r.location parent name).registry.Alongside f (r'.location (f parent) name).registry := by
  rw [location_eq_after h.within.source, location_eq_after h.within.target,
    ← locationParts_moved h.ahead]
  refine h.after_of_apply fun step hstep r r' h => ?_
  obtain ⟨parent, a, rfl⟩ : ∃ parent a, step = .argument parent a := by
    unfold locationParts at hstep
    split at hstep <;> simp at hstep
    · exact ⟨_, _, hstep⟩
    · rcases hstep with rfl | rfl | rfl <;> exact ⟨_, _, rfl⟩
  exact h.argument parent a

/-- **A single step keeps registries alongside**, whether it fails or not: it fails in both or in
none. -/
theorem Alongside.apply (h : r.Alongside f r') {step : BuildStep H} {base : NodeId}
    (hbase : step.base? = some base) :
    (r.apply step).registry.Alongside f (r'.apply (step.moved f)).registry := by
  cases step with
  | argument parent a => exact h.argument parent a
  | literal parent data => exact h.literal parent data
  | location parent name => exact h.location parent name
  | attach id handler => exact h.attach id handler
  | command _ | help | teleport => cases hbase

theorem branch_moved {n n' : Nat} (hahead : ∀ k, f (n + k) = n' + k) (step : BuildStep H) :
    (step.branch n).map (BuildStep.moved f) = (step.moved f).branch n' := by
  have hfirst : f n = n' := hahead 0
  cases step with
  | help => simp [BuildStep.branch, BuildStep.helpBranch, BuildStep.moved, hfirst, hahead]
  | teleport =>
    simp [BuildStep.branch, BuildStep.teleportBranch, BuildStep.gazeBranch, BuildStep.moved,
      hfirst, hahead, Nat.add_assoc]
  | _ => rfl

/-- A step that begins a command and ends well in both registries keeps them alongside. -/
theorem Alongside.apply_root (h : r.Alongside f r') {step : BuildStep H} {data : CommandData H}
    (hroot : step.root? = some data) {id id' : NodeId} (hok : (r.apply step).result = .ok id)
    (hok' : (r'.apply (step.moved f)).result = .ok id') :
    (r.apply step).registry.Alongside f (r'.apply (step.moved f)).registry := by
  have hroot' : (step.moved f).root? = some data := by
    cases step with
    | command _ | help | teleport => exact hroot
    | _ => cases hroot
  obtain ⟨-, heq⟩ := apply_of_root? hroot hok
  obtain ⟨-, heq'⟩ := apply_of_root? hroot' hok'
  have hstart : (r.push none data ⟨data.name, .literal⟩).1.Alongside f
      (r'.push none data ⟨data.name, .literal⟩).1 :=
    h.push (by simp) (fun _ => rfl)
  rw [heq, heq', ← branch_moved h.ahead]
  refine hstart.after_of_apply fun part hpart r r' h => ?_
  obtain ⟨base, hbase, -⟩ := BuildStep.le_base_of_mem_branch hpart
  exact h.apply hbase

/-- What a step declares in the second registry corresponds to what it declares in the first one, so
it hides nothing and shows nothing. -/
theorem Abreast.embeds_apply (h : r.Abreast m who f r') {step : BuildStep H}
    (hs : (r.apply step).registry.Alongside f (r'.apply (step.moved f)).registry) :
    (r.apply step).registry.Embeds m who f (r'.apply (step.moved f)).registry where
  source := hs.within.source
  target := hs.within.target
  mono := hs.within.mono
  node := hs.within.node
  hidden {id node} hnode hnew hdepth := by
    have hgrows := (apply_grows r step).extends.size_le
    by_cases hid : id < r'.size
    · obtain ⟨old, hold⟩ := exists_node?_of_lt hid
      obtain ⟨node', hnode', hdeclared⟩ := (apply_grows r' (step.moved f)).extends hold
      rw [hnode, Option.some.injEq] at hnode'
      subst hnode'
      rw [hdeclared.data]
      exact h.embeds.hidden hold (fun j hj => hnew j (Nat.lt_of_lt_of_le hj hgrows))
        (hdeclared.depth ▸ hdepth)
    · -- The registries have grown alike, so there is a new node for it in the first one.
      obtain ⟨k, rfl⟩ := Nat.exists_eq_add_of_le (Nat.le_of_not_lt hid)
      have hlt := node?_lt hnode
      refine absurd (h.ahead k) (hnew _ (Nat.lt_of_not_le fun hle => ?_))
      obtain ⟨i, hi⟩ := Nat.exists_eq_add_of_le hle
      have hahead := h.ahead k
      rw [hi, hs.ahead i] at hahead
      exact Nat.lt_irrefl _ (Nat.lt_of_le_of_lt (hahead ▸ Nat.le_add_right _ i) hlt)

/-! ### Steps in the second registry only -/

/-- A single step in the second registry that goes on from nothing of the first. -/
theorem Embeds.apply_hidden (h : r.Embeds m who f r') {step : BuildStep H} {base : NodeId}
    (hbase : step.base? = some base) (hnew : ∀ j < r.size, f j ≠ base) :
    r.Embeds m who f (r'.apply step).registry := by
  have hpush : ∀ {r' : Registry H}, r.Embeds m who f r' → ∀ {parent node},
      r'.node? parent = some node → (∀ j < r.size, f j ≠ parent) → ∀ data a,
      r.Embeds m who f (r'.push (some parent) data a).1 := by
    intro r' h parent node hnode hnew data a
    refine h.push_hidden ?_ (fun hnone => nomatch hnone) (fun hnone => nomatch hnone)
    rintro p ⟨⟩
    exact ⟨⟨node, hnode⟩, hnew⟩
  have hargument : ∀ {r' : Registry H}, r.Embeds m who f r' → ∀ parent a,
      (∀ j < r.size, f j ≠ parent) → r.Embeds m who f (r'.argument parent a).registry := by
    intro r' h parent a hnew
    unfold Registry.argument
    split
    · exact h
    · next node hnode => exact hpush h hnode hnew node.data a
  cases step with
  | argument parent a =>
    cases hbase
    exact hargument h base a hnew
  | literal parent data =>
    cases hbase
    simp only [apply, literal]
    split
    · exact h
    · next node hnode => exact hpush h hnode hnew data _
  | location parent name =>
    cases hbase
    -- The axes after the first go on from nodes that are new.
    have hlater : ∀ k, ∀ j < r.size, f j ≠ r'.size + k := fun k j hj =>
      Nat.ne_of_lt (Nat.lt_of_lt_of_le (h.within.lt hj) (Nat.le_add_right _ _))
    simp only [apply, location_eq_after h.target, locationParts]
    split
    · exact hargument h base _ hnew
    · exact hargument (hargument (hargument h base _ hnew) _ _ (hlater 0)) _ _ (hlater 1)
  | attach id handler =>
    cases hbase
    cases hnode : r'.node? base with
    | none =>
      simp only [apply, Registry.attach, hnode]
      exact h
    | some node =>
      rw [apply, attach_eq hnode]
      split
      · exact h.setHandler_hidden hnew handler
      · exact h
  | command _ | help | teleport => cases hbase

theorem Embeds.after_hidden {steps : List (BuildStep H)}
    (hsteps : ∀ step ∈ steps, ∃ base, step.base? = some base ∧ ∀ j < r.size, f j ≠ base)
    (h : r.Embeds m who f r') : r.Embeds m who f (r'.after steps) := by
  induction steps generalizing r' with
  | nil => exact h
  | cons step steps ih =>
    obtain ⟨base, hbase, hnew⟩ := hsteps step List.mem_cons_self
    exact ih (fun step hstep => hsteps step (List.mem_cons_of_mem _ hstep))
      (h.apply_hidden hbase hnew)

/-- A hidden command in the second registry. -/
theorem Embeds.apply_root_hidden (h : r.Embeds m who f r') {step : BuildStep H}
    {data : CommandData H} (hroot : step.root? = some data) (hdata : data.isHidden m who = true) :
    r.Embeds m who f (r'.apply step).registry := by
  cases hresult : (r'.apply step).result with
  | error e =>
    rw [apply_unchanged h.target hresult]
    exact h
  | ok id =>
    obtain ⟨-, heq⟩ := apply_of_root? hroot hresult
    rw [heq]
    refine Embeds.after_hidden (fun part hpart => ?_)
      (h.push_hidden (by simp) (fun _ => rfl) fun _ => hdata)
    obtain ⟨base, hbase, hle⟩ := BuildStep.le_base_of_mem_branch hpart
    exact ⟨base, hbase, fun j hj => Nat.ne_of_lt (Nat.lt_of_lt_of_le (h.within.lt hj) hle)⟩

/-! ### Registries built side by side -/

/-- The renaming that goes on with the next nodes of registries of the two sizes. -/
def along (f : NodeId → NodeId) (n n' : Nat) (id : NodeId) : NodeId :=
  if id < n then f id else n' + (id - n)

/-- Two registries that are built side by side.  A step is made in both of them, on nodes that
correspond, and fails in both or in none; or it is made in the second one only, and then it begins a
command that the player is not shown or goes on below such commands.  The renaming tells where the
nodes of the first registry stand in the second one. -/
inductive Beside (m : H.State) (who : H.Who) :
    Registry H → (NodeId → NodeId) → Registry H → Prop
  /-- Nothing yet. -/
  | empty : Beside m who empty id empty
  /-- The same step in both. -/
  | both {r r' : Registry H} {f : NodeId → NodeId} (h : Beside m who r f r') (step : BuildStep H)
    (hsame : (r.apply step).result.isOk =
      (r'.apply (step.moved (along f r.size r'.size))).result.isOk) :
    Beside m who (r.apply step).registry (along f r.size r'.size)
      (r'.apply (step.moved (along f r.size r'.size))).registry
  /-- A step in the second only. -/
  | extra {r r' : Registry H} {f : NodeId → NodeId} (h : Beside m who r f r') (step : BuildStep H)
    (hroot : ∀ data ∈ step.root?, data.isHidden m who = true)
    (hbase : ∀ base ∈ step.base?, ∀ j < r.size, f j ≠ base) :
    Beside m who r f (r'.apply step).registry

theorem Beside.reachable (h : Beside m who r f r') : r.Reachable ∧ r'.Reachable := by
  induction h with
  | empty => exact ⟨⟨[], rfl⟩, ⟨[], rfl⟩⟩
  | both _ step _ ih => exact ⟨ih.1.after [step], ih.2.after [step.moved _]⟩
  | extra _ step _ _ ih => exact ⟨ih.1, ih.2.after [step]⟩

/-- **Registries built side by side correspond node by node**, and all other commands of the second
one are hidden. -/
theorem Beside.embeds (h : Beside m who r f r') : r.Embeds m who f r' := by
  induction h with
  | empty => exact embeds_empty m who id
  | @both r r' f _ step hsame ih =>
    have habreast : r.Abreast m who (along f r.size r'.size) r' := by
      refine ⟨ih.congr fun j hj => (if_pos hj).symm, fun k => ?_⟩
      rw [along, if_neg (Nat.not_lt.mpr (Nat.le_add_right _ _)), Nat.add_sub_cancel_left]
    cases hroot : step.root? with
    | none =>
      obtain ⟨base, hbase⟩ := BuildStep.root?_eq_none_iff.mp hroot
      exact habreast.embeds_apply (habreast.alongside.apply hbase)
    | some data =>
      cases hresult : (r.apply step).result with
      | ok id =>
        cases hresult' : (r'.apply (step.moved (along f r.size r'.size))).result with
        | ok id' =>
          exact habreast.embeds_apply (habreast.alongside.apply_root hroot hresult hresult')
        | error e =>
          rw [hresult, hresult'] at hsame
          cases hsame
      | error e =>
        cases hresult' : (r'.apply (step.moved (along f r.size r'.size))).result with
        | ok id' =>
          rw [hresult, hresult'] at hsame
          cases hsame
        | error e' =>
          rw [apply_unchanged ih.source hresult, apply_unchanged ih.target hresult']
          exact habreast.embeds
  | extra _ step hroot hbase ih =>
    cases hstep : step.root? with
    | none =>
      obtain ⟨base, hstep⟩ := BuildStep.root?_eq_none_iff.mp hstep
      exact ih.apply_hidden hstep (hbase base hstep)
    | some data => exact ih.apply_root_hidden hstep (hroot data hstep)

end Registry

end CommandTree
