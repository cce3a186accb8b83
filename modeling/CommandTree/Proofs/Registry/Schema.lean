import CommandTree.Proofs.Registry.Shape
import Mathlib.Data.List.Basic

/-!
# What handlers receive

The kinds of the values that a handler receives are read off the path to its node,
and compared with what the handler takes only once, when it is attached.  Since
paths do not change, nothing that is declared later can make the comparison stale.

## Main definitions

* `Registry.Fitted` — every handler takes what its node produces.

## Main results

* `schema_eq_of_extends` — what a handler receives does not change.
* `Reachable.fitted` — in registries that can be built, every handler fits its node.
* `handlers_fit` — a handler that does not fit cannot be attached, and one that does fits for good.
-/

namespace CommandTree

variable {H : Host}

namespace Registry

variable {r r' : Registry H} {id : NodeId} {node : Node H}

/-! ### Schemas -/

theorem valueKind?_eq (h : r.node? id = some node) :
    r.valueKind? id = node.argument.valueKind? := by
  rw [valueKind?, h, Option.bind_some]

/-- A root contributes no value. -/
theorem valueKind?_root (hr : r.WellFormed) (h : r.node? id = some node) (hp : node.parent = none) :
    r.valueKind? id = none := by
  rw [valueKind?_eq h, hr.root_argument h hp, Argument.valueKind?]
  split <;> rfl

/-- **What a handler on a node receives does not change when the registry grows.** -/
theorem schema_eq_of_extends (hr : r.WellFormed) (hr' : r'.WellFormed) (hext : r.Extends r')
    (h : r.node? id = some node) : r'.schema id = r.schema id := by
  rw [schema, schema, path_eq_of_extends hr hr' hext h]
  refine List.filterMap_congr fun j hj => ?_
  obtain ⟨above, habove⟩ := exists_node?_of_mem_path hr h j hj
  obtain ⟨above', habove', hs⟩ := hext habove
  rw [valueKind?_eq habove, valueKind?_eq habove', hs.argument]

/-! ### Handlers fit -/

/-- Every handler takes just the values that the path to its node produces. -/
def Fitted (r : Registry H) : Prop :=
  ∀ ⦃id handler⦄, r.handler? id = some handler → r.schema id = handler.params

theorem handler?_eq (h : r.node? id = some node) : r.handler? id = node.handler := by
  rw [handler?, h, Option.bind_some]

theorem fitted_empty : (empty : Registry H).Fitted := by
  intro id handler h
  simp [handler?] at h

/-- A push brings no handler, and leaves those on other nodes where they were. -/
theorem handler?_push {parent : Option NodeId} {data : CommandData H} {a : Argument H}
    {handler : Handler H} (h : (r.push parent data a).1.handler? id = some handler) :
    r.handler? id = some handler := by
  obtain ⟨node, hnode, hh⟩ := Option.bind_eq_some_iff.mp h
  rcases node?_push_cases hnode with ⟨-, rfl⟩ | ⟨old, hold, -, heq, -⟩
  · cases hh
  · rw [handler?_eq hold, ← heq, hh]

/-- Every move keeps the handlers fitting. -/
theorem Fitted.move (hf : r.Fitted) (hr : r.WellFormed) (h : Move r r') : r'.Fitted := by
  have hr' := hr.move h
  have hext := h.extends
  -- An old handler still fits: it takes what it took, and its node produces what it did.
  have keep : ∀ id handler, r.handler? id = some handler → r'.schema id = handler.params := by
    intro id handler hh
    obtain ⟨node, hnode, -⟩ := Option.bind_eq_some_iff.mp hh
    rw [schema_eq_of_extends hr hr' hext hnode, hf hh]
  cases h with
  | command data _ => exact fun id handler hh => keep id handler (handler?_push hh)
  | argument a _ => exact fun id handler hh => keep id handler (handler?_push hh)
  | literal data _ => exact fun id handler hh => keep id handler (handler?_push hh)
  | @attach j node handler hnode hfit =>
    intro id new hh
    obtain ⟨node', hnode', hnew⟩ := Option.bind_eq_some_iff.mp hh
    obtain ⟨old, hold, -, -, heq⟩ := node?_setHandler_cases hnode'
    rw [heq] at hnew
    by_cases hj : j = id
    · -- The handler just attached was compared with what its node produces.
      subst hj
      rw [if_pos rfl] at hnew
      rw [schema_eq_of_extends hr hr' hext hnode, hfit, Option.some.inj hnew]
    · rw [if_neg hj] at hnew
      exact keep id new ((handler?_eq hold).trans hnew)

/-- **In every registry that can be built, every handler fits its node.** -/
theorem Reachable.fitted (hr : r.Reachable) : r.Fitted := by
  have h : r.WellFormed ∧ r.Fitted :=
    Reachable.induction (P := fun r => r.WellFormed ∧ r.Fitted) ⟨wellFormed_empty, fitted_empty⟩
      (fun _ _ h hm => ⟨h.1.move hm, h.2.move h.1 hm⟩) hr
  exact h.2

/-! ### Handlers stay fitting -/

/-- A handler may be replaced, but no step takes it away. -/
theorem Grows.exists_handler? (h : Grows r r') {handler : Handler H}
    (hh : r.handler? id = some handler) : ∃ new, r'.handler? id = some new := by
  induction h with
  | refl => exact ⟨handler, hh⟩
  | @tail mid _ _ hm ih =>
    obtain ⟨old, hold⟩ := ih
    obtain ⟨node, hnode, hnew⟩ := Option.bind_eq_some_iff.mp hold
    -- A push leaves the handlers of the nodes that were there.
    have push : ∀ parent data a,
        ∃ new, (mid.push parent data a).1.handler? id = some new := by
      intro parent data a
      refine ⟨old, ?_⟩
      rw [handler?, node?_push, if_neg (Nat.ne_of_lt (node?_lt hnode)), hnode]
      by_cases hp : parent = some id
      · simpa [hp, Node.adopt] using hnew
      · simpa [hp] using hnew
    cases hm with
    | command data _ => exact push _ _ _
    | argument a _ => exact push _ _ _
    | literal data _ => exact push _ _ _
    | @attach j _ handler _ _ =>
      rw [handler?, node?_setHandler, hnode]
      by_cases hj : j = id
      · exact ⟨handler, by simp [hj]⟩
      · exact ⟨old, by simpa [hj] using hnew⟩

/-- What comes of attaching a handler to a node that is there. -/
theorem attach_eq (h : r.node? id = some node) (handler : Handler H) :
    r.attach id handler =
      if r.schema id = handler.params then ⟨.ok id, r.setHandler id handler⟩
      else ⟨.error (.signatureMismatch (r.describe id) (r.schema id) handler.params), r⟩ := by
  rw [attach, h]

/-- **Handlers fit their nodes for good.**  A handler takes just what its node produces now; it can
be attached to a node only if it does, and is told from what was expected otherwise; and whatever
is declared later, the node produces the same, and its handler, replaced or not, still takes it. -/
theorem handlers_fit (hr : r.Reachable) :
    (∀ id handler, r.handler? id = some handler → handler.params = r.schema id) ∧
    (∀ id node, r.node? id = some node → ∀ handler,
      ((∃ j, (r.attach id handler).result = .ok j) ↔ handler.params = r.schema id) ∧
      (handler.params = r.schema id →
        (r.attach id handler).registry.handler? id = some handler) ∧
      (handler.params ≠ r.schema id → (r.attach id handler).result =
        .error (.signatureMismatch (r.describe id) (r.schema id) handler.params))) ∧
    ∀ steps id handler, r.handler? id = some handler →
      (r.after steps).schema id = handler.params ∧
      ∃ new, (r.after steps).handler? id = some new ∧
        new.params = (r.after steps).schema id := by
  refine ⟨fun id handler hh => (hr.fitted hh).symm, fun id node hnode handler => ?_,
    fun steps id handler hh => ?_⟩
  · rw [attach_eq hnode]
    by_cases hfit : r.schema id = handler.params
    · have hnew : (r.setHandler id handler).handler? id = some handler := by
        rw [handler?, node?_setHandler, hnode]
        simp
      simp [hfit, hnew]
    · simp [hfit, Ne.symm hfit]
  · have hr' := hr.after steps
    obtain ⟨node, hnode, -⟩ := Option.bind_eq_some_iff.mp hh
    have hschema : (r.after steps).schema id = r.schema id :=
      schema_eq_of_extends hr.wellFormed hr'.wellFormed (after_grows r steps).extends hnode
    obtain ⟨new, hnew⟩ := (after_grows r steps).exists_handler? hh
    exact ⟨hschema.trans (hr.fitted hh), new, hnew, (hr'.fitted hnew).symm⟩

/-- The command `warp <to> at <who>` to a place, which takes three words. -/
def warpTree : Registry (Host.still Unit) :=
  ofSteps [.command (.plain "warp" ""), .location 0 "to", .literal 3 (.plain "at" ""),
    .argument 4 ⟨"who", .player⟩, .attach 5 ⟨[.location, .player], .host ()⟩]

/-- Its handler takes a place and a player.  It cannot be replaced by one that takes them in the
other order, and still fits when other commands and branches have come about it and another handler
in its place. -/
theorem handlers_fit_warp :
    warpTree.schema 5 = [.location, .player] ∧
    (warpTree.attach 5 ⟨[.player, .location], .host ()⟩).result =
      .error (.signatureMismatch "warp <to> <to_y*> <to_z*> at <who>" [.location, .player]
        [.player, .location]) ∧
    (warpTree.after [.teleport, .location 5 "from", .literal 0 (.plain "home" ""),
      .attach 5 ⟨[.location, .player], .help .page⟩]).schema 5 = [.location, .player] := by
  have hparams : (warpTree.handler? 5).map Handler.params = some [.location, .player] := by
    decide +kernel
  have hnode : (warpTree.node? 5).isSome = true := by decide +kernel
  have hdescribe : warpTree.describe 5 = "warp <to> <to_y*> <to_z*> at <who>" := by decide +kernel
  obtain ⟨handler, hh, hkinds⟩ := Option.map_eq_some_iff.mp hparams
  obtain ⟨node, hnode⟩ := Option.isSome_iff_exists.mp hnode
  obtain ⟨hfits, hattach, hlater⟩ := handlers_fit (r := warpTree) ⟨_, rfl⟩
  have hschema : warpTree.schema 5 = [.location, .player] := (hfits 5 handler hh).symm.trans hkinds
  refine ⟨hschema, ?_, (hlater _ 5 handler hh).1.trans hkinds⟩
  have hother := (hattach 5 node hnode ⟨[.player, .location], .host ()⟩).2.2
  rw [hschema, hdescribe] at hother
  exact hother (by decide)

end Registry

end CommandTree
