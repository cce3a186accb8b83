import CommandTree.Proofs.Registry.Parts

/-!
# Leaves with handlers

A command whose words end at a node without children comes to nothing if no handler is
found on the way there.  The built-in commands leave no such node behind.  While they are
declared there is one node at most that has neither children nor a handler, and it is the
one that the last step has ended on: the next step gives it a child or a handler.

## Main definitions

* `Registry.Finished` — every node without children has a handler.
* `Registry.FinishedBut` — so has every one but the given node.
* `Built.Leads` — what holds after a step that ends well.

## Main results

* `Built.Leads.andThen` — steps in a row.
* `addHelp_leads`, `addTeleport_leads` — the built-in commands.
* `Finished.apply_builtin`, `finished_builtin` — **they keep a registry finished**.
-/

namespace CommandTree

variable {H : Host}

/-- What holds after a step, if it ends well, of the node that it ends on and of the registry. -/
def Built.Leads (b : Built H) (P : NodeId → Registry H → Prop) : Prop :=
  ∀ id, b.result = .ok id → P id b.registry

/-- Steps in a row lead where the last one does, given what the ones before lead to. -/
theorem Built.Leads.andThen {b : Built H} {next : NodeId → Registry H → Built H}
    {P Q : NodeId → Registry H → Prop} (hb : b.Leads P)
    (hnext : ∀ id r, P id r → (next id r).Leads Q) : (b.andThen next).Leads Q := by
  intro last hlast
  obtain ⟨id, hid, hthen⟩ := Registry.andThen_eq_ok hlast
  rw [hthen] at hlast ⊢
  exact hnext id _ (hb id hid) last hlast

namespace Registry

/-- Every node without children has a handler. -/
def Finished (r : Registry H) : Prop :=
  ∀ ⦃id node⦄, r.node? id = some node → node.children = [] →
    ∃ handler, node.handler = some handler

/-- Every node without children has a handler, apart from the given one. -/
def FinishedBut (last : NodeId) (r : Registry H) : Prop :=
  ∀ ⦃id node⦄, r.node? id = some node → node.children = [] → id ≠ last →
    ∃ handler, node.handler = some handler

variable {r : Registry H} {id parent : NodeId}

theorem finished_empty : (empty : Registry H).Finished := by
  intro id node h
  simp at h

theorem Finished.but (h : r.Finished) (last : NodeId) : FinishedBut last r :=
  fun _ _ hnode hleaf _ => h hnode hleaf

theorem Finished.exists_handler? {node : Node H} (h : r.Finished) (hnode : r.node? id = some node)
    (hleaf : r.children id = []) : ∃ handler, r.handler? id = some handler := by
  rw [children_eq hnode] at hleaf
  rw [handler?_eq hnode]
  exact h hnode hleaf

/-! ### Single steps -/

/-- A new node is the only one without children and a handler if there was none before, or none but
its parent. -/
theorem FinishedBut.push {parent : Option NodeId}
    (h : ∀ ⦃id node⦄, r.node? id = some node → node.children = [] → parent ≠ some id →
      ∃ handler, node.handler = some handler) (data : CommandData H) (a : Argument H) :
    FinishedBut r.size (r.push parent data a).1 := by
  intro id node hnode hleaf hne
  rcases node?_push_cases hnode with ⟨hnew, -⟩ | ⟨old, hold, -, hhandler, hchildren⟩
  · exact absurd hnew hne
  · -- The parent has a child now, and no other node has got or lost one.
    rw [hchildren] at hleaf
    rw [hhandler]
    by_cases hparent : parent = some id
    · rw [if_pos hparent] at hleaf
      exact absurd hleaf (by simp)
    · rw [if_neg hparent] at hleaf
      exact h hold hleaf hparent

theorem command_leads (h : r.Finished) (data : CommandData H) :
    (r.command data).Leads FinishedBut := by
  intro id hid
  obtain ⟨rfl, hfree⟩ := command_result hid
  rw [command_eq_push hfree]
  show FinishedBut r.size (r.push none data ⟨data.name, .literal⟩).1
  exact .push (fun _ _ hnode hleaf _ => h hnode hleaf) _ _

theorem argument_leads (h : FinishedBut parent r) (a : Argument H) :
    (r.argument parent a).Leads FinishedBut := by
  intro id hid
  obtain rfl := argument_result hid
  unfold argument at hid ⊢
  cases hparent : r.node? parent with
  | none => simp [hparent] at hid
  | some node =>
    show FinishedBut r.size (r.push (some parent) node.data a).1
    exact .push (fun _ _ hnode hleaf hne => h hnode hleaf fun heq => hne (congrArg some heq.symm))
      _ _

theorem literal_leads (h : FinishedBut parent r) (data : CommandData H) :
    (r.literal parent data).Leads FinishedBut := by
  intro id hid
  obtain rfl := literal_result hid
  unfold literal at hid ⊢
  cases hparent : r.node? parent with
  | none => simp [hparent] at hid
  | some node =>
    show FinishedBut r.size (r.push (some parent) data ⟨data.name, .literal⟩).1
    exact .push (fun _ _ hnode hleaf hne => h hnode hleaf fun heq => hne (congrArg some heq.symm))
      _ _

/-- Of the axes of a location the last one is left without children. -/
theorem location_leads (h : FinishedBut parent r) (name : String) :
    (r.location parent name).Leads FinishedBut := by
  unfold location
  split
  · exact argument_leads h _
  · refine (argument_leads h _).andThen fun x r hx => ?_
    refine (argument_leads hx _).andThen fun y r hy => ?_
    exact argument_leads hy _

/-- The only node without a handler has one now. -/
theorem attach_leads (h : FinishedBut id r) (handler : Handler H) :
    (r.attach id handler).Leads fun _ r => r.Finished := by
  intro last hid
  unfold attach at hid ⊢
  cases hnode : r.node? id with
  | none => simp [hnode] at hid
  | some node =>
    by_cases hfit : r.schema id = handler.params
    · simp only [hfit, if_true]
      intro j node hj hleaf
      obtain ⟨old, hold, -, hchildren, hhandler⟩ := node?_setHandler_cases hj
      rw [hchildren] at hleaf
      rw [hhandler]
      by_cases hsame : id = j
      · exact ⟨handler, if_pos hsame⟩
      · rw [if_neg hsame]
        exact h hold hleaf (Ne.symm hsame)
    · simp [hnode, hfit] at hid

/-! ### The built-in commands -/

theorem addHelp_leads (h : r.Finished) : r.addHelp.Leads fun _ r => r.Finished := by
  refine (command_leads h _).andThen fun root r hroot => ?_
  refine (attach_leads hroot _).andThen fun _ r h => ?_
  refine (argument_leads (h.but root) _).andThen fun page r hpage => ?_
  refine (attach_leads hpage _).andThen fun _ r h => ?_
  refine (argument_leads (h.but root) _).andThen fun name r hname => ?_
  refine (attach_leads hname _).andThen fun _ r h => ?_
  exact fun _ _ => h

theorem addGazes_leads {place : NodeId} (h : FinishedBut place r) (subject : Subject) :
    (r.addGazes place subject).Leads fun _ r => r.Finished := by
  refine (argument_leads h _).andThen fun blocks r hblocks => ?_
  refine (attach_leads hblocks _).andThen fun _ r h => ?_
  refine (argument_leads (h.but place) _).andThen fun yaw r hyaw => ?_
  refine (argument_leads hyaw _).andThen fun pitch r hpitch => ?_
  refine (argument_leads hpitch _).andThen fun blocks r hblocks => ?_
  refine (attach_leads hblocks _).andThen fun _ r h => ?_
  refine (literal_leads (h.but place) _).andThen fun facing r hfacing => ?_
  refine (argument_leads hfacing _).andThen fun entity r hentity => ?_
  refine (argument_leads hentity _).andThen fun blocks r hblocks => ?_
  refine (attach_leads hblocks _).andThen fun _ r h => ?_
  refine (location_leads (h.but facing) _).andThen fun position r hposition => ?_
  refine (argument_leads hposition _).andThen fun blocks r hblocks => ?_
  exact attach_leads hblocks _

theorem addTeleport_leads (h : r.Finished) : r.addTeleport.Leads fun _ r => r.Finished := by
  refine (command_leads h _).andThen fun root r hroot => ?_
  refine (argument_leads hroot _).andThen fun player r hplayer => ?_
  refine (attach_leads hplayer _).andThen fun _ r h => ?_
  refine (location_leads (h.but root) _).andThen fun place r hplace => ?_
  refine (addGazes_leads hplace .sender).andThen fun _ r h => ?_
  refine (argument_leads (h.but root) _).andThen fun victim r hvictim => ?_
  refine (argument_leads hvictim _).andThen fun player r hplayer => ?_
  refine (argument_leads hplayer _).andThen fun blocks r hblocks => ?_
  refine (attach_leads hblocks _).andThen fun _ r h => ?_
  refine (location_leads (h.but victim) _).andThen fun place r hplace => ?_
  refine (addGazes_leads hplace .victim).andThen fun _ r h => ?_
  exact fun _ _ => h

/-- **The built-in commands keep a registry finished**, for one that cannot be declared leaves it as
it was. -/
theorem Finished.apply_builtin (h : r.Finished) (hr : r.WellFormed) {step : BuildStep H}
    (hstep : step ∈ [BuildStep.help, .teleport]) : (r.apply step).registry.Finished := by
  have hleads : (r.apply step).Leads fun _ r => r.Finished := by
    simp only [List.mem_cons, List.not_mem_nil, or_false] at hstep
    rcases hstep with rfl | rfl
    · exact addHelp_leads h
    · exact addTeleport_leads h
  cases hresult : (r.apply step).result with
  | ok id => exact hleads id hresult
  | error e => rwa [apply_unchanged hr hresult]

/-- So a registry with nothing but built-in commands is finished. -/
theorem finished_builtin {steps : List (BuildStep H)}
    (hsteps : ∀ step ∈ steps, step ∈ [BuildStep.help, .teleport]) : (ofSteps steps).Finished := by
  have hall : ∀ (steps : List (BuildStep H)) (r : Registry H), r.WellFormed → r.Finished →
      (∀ step ∈ steps, step ∈ [BuildStep.help, .teleport]) → (r.after steps).Finished := by
    intro steps
    induction steps with
    | nil => exact fun r _ h _ => h
    | cons step steps ih =>
      intro r hr h hsteps
      obtain ⟨hstep, hrest⟩ := List.forall_mem_cons.mp hsteps
      exact ih _ (hr.grows (apply_grows r step)) (h.apply_builtin hr hstep) hrest
  exact hall steps empty wellFormed_empty finished_empty hsteps

end Registry

end CommandTree
