import CommandTree.Proofs.Dispatch.Locations
import CommandTree.Proofs.Dispatch.Validity
import CommandTree.Proofs.Registry.Leaves
import CommandTree.Proofs.Resolve.Greedy

/-!
# The handler nearest to the end

Of the root of a command and the nodes that its words have led to, the last one that has a
handler is the one that is called.  It is given what the nodes up to it contribute; the nodes
after it might as well not be there.  If none has a handler the command is incomplete.  The
walk then has ended at a node without children, for that is the only way for it to end well
at a node without a handler.  So where every node without children has a handler, as in a
registry of built-in commands, no command is ever incomplete.

## Main definitions

* `Registry.Deepest` — a node is the last one with a handler.
* `Dispatcher.Sourced` — the values of an approach come from the nodes up to that of its handler.

## Main results

* `deepestHandler?_eq_some_iff` — the handler found is that of the last node that has one.
* `Approaches.sourced` — every approach is sourced.
* `outcome_of_idle`, `not_incomplete_of_finished` — when a command is incomplete.
* `calls_deepest` — **which handler is called, and with what, and when there is none**.
-/

namespace CommandTree

variable {H : Host}

namespace Registry

variable {r : Registry H} {who : H.Who} {node root : NodeId} {handler : Handler H}
  {path taken : List NodeId} {args : List String} {s t : H.State}

/-- Of a root and the nodes of a path below it, `node` is the last one with a handler; it has
`handler`, and `taken` is the part of the path that leads to it. -/
structure Deepest (r : Registry H) (root : NodeId) (path : List NodeId) (node : NodeId)
    (handler : Handler H) (taken : List NodeId) : Prop where
  /-- The node has the handler. -/
  handler : r.handler? node = some handler
  /-- It is the last one of its part of the path, or the root if that is empty. -/
  last : node = taken.getLastD root
  /-- No node of the rest of the path has a handler. -/
  below : ∃ below, path = taken ++ below ∧ ∀ id ∈ below, r.handler? id = none

/-- **The handler found is that of the last node that has one.** -/
theorem deepestHandler?_eq_some_iff :
    r.deepestHandler? root path = some (node, handler, taken) ↔
      r.Deepest root path node handler taken := by
  constructor
  · intro h
    obtain ⟨hhandler, hlast, hbelow⟩ := deepestHandler?_eq_some h
    exact ⟨hhandler, hlast, hbelow⟩
  · rintro ⟨hhandler, rfl, below, rfl, hnone⟩
    -- The nodes of `taken` are passed by one after the other: the search looks below them first.
    induction taken generalizing root with
    | nil =>
      cases below with
      | nil => exact Option.map_eq_some_iff.mpr ⟨handler, hhandler, rfl⟩
      | cons id below =>
        have hrest : r.deepestHandler? id below = none :=
          deepestHandler?_eq_none.mpr (List.forall_mem_cons.mp hnone)
        rw [List.nil_append, deepestHandler?, hrest]
        exact Option.map_eq_some_iff.mpr ⟨handler, hhandler, rfl⟩
    | cons id taken ih =>
      rw [List.getLastD_cons] at hhandler ⊢
      rw [List.cons_append, deepestHandler?, ih hhandler]

theorem hasHandler_eq_false_iff {id : NodeId} :
    r.hasHandler id = false ↔ r.handler? id = none := by
  rw [hasHandler, Option.isSome_eq_false_iff, Option.isNone_iff_eq_none]

/-- None is found just if there is none. -/
theorem deepestHandler?_eq_none_iff :
    r.deepestHandler? root path = none ↔ ∀ id ∈ root :: path, r.hasHandler id = false := by
  simp only [deepestHandler?_eq_none, hasHandler_eq_false_iff, List.forall_mem_cons]

/-- A walk that ends well at a node without a handler has nowhere to go from there. -/
theorem children_of_walk (h : r.walk who root args s = (.ok path, t))
    (hidle : r.hasHandler (path.getLastD root) = false) :
    r.children (path.getLastD root) = [] := by
  obtain ⟨last, rest, s', hdescent, hstops⟩ := walk_eq_ok h
  rw [← hdescent.last_eq] at hidle ⊢
  cases hstops with
  | leaf hleaf => exact hleaf
  | spent hh => simp [hidle] at hh
  | unfit hh _ => simp [hidle] at hh

end Registry

namespace Dispatcher

variable {d : Dispatcher H} {who : H.Who} {text name : String} {args : List String}
  {s s₁ : Session H} {a : Approach H} {root node : NodeId} {path : List NodeId}
  {handler : Handler H} {values : List (Value H.Who)} {h : H.State}

/-! ### What the handler is given -/

/-- What the handler of an approach is called with comes from the nodes up to its own. -/
structure Sourced (d : Dispatcher H) (who : H.Who) (a : Approach H) : Prop where
  /-- The nodes up to its own are the root and the part of the path that was taken. -/
  path : d.registry.path a.node = a.root :: a.taken
  /-- The values are the readings of these nodes, apart from those that failed. -/
  values : d.values who a =
    (d.registry.bearing a.taken).filterMap (d.registry.readingAt who a.taken a.args a.host)
  /-- The words that are read for them are their own, and those on which an axis reads on. -/
  reach : ∀ j ∈ d.registry.consulted a.taken, j < a.taken.length + 2
  /-- An axis reads on in words of these nodes alone if locations are whole. -/
  within : d.registry.Whole → ∀ j ∈ d.registry.consulted a.taken, j < a.taken.length
  /-- Other words are of no account. -/
  unread : ∀ words : List String, a.taken.length ≤ words.length →
    (∀ j ∈ d.registry.consulted a.taken, words[j]? = a.args[j]?) →
    d.registry.extract who a.taken words a.host = d.registry.extract who a.taken a.args a.host

/-- **The values of an approach come from the nodes up to that of its handler.** -/
theorem Approaches.sourced (hr : d.registry.Reachable) (ha : d.Approaches who text s a) :
    d.Sourced who a := by
  refine ⟨ha.path_node hr, Registry.extract_eq (ha.exists_node? hr) ha.length_taken_le,
    fun j hj => ?_, fun hw => (ha.apportioned hr hw).within, fun words => ha.extract_congr hr⟩
  obtain ⟨i, hi, hji⟩ := List.mem_flatMap.mp hj
  have hlt : i < a.taken.length := List.mem_range.mp (List.mem_filter.mp hi).1
  have hle := Registry.le_of_mem_span hji
  omega

/-! ### Commands without a handler -/

/-- A handler that was called never leaves its command incomplete. -/
theorem call_ne_incomplete (command : String) :
    (d.call who root node handler values s).outcome ≠ .failed (.incomplete command) := by
  intro h
  rcases call_outcome_cases d who root node handler values s with hgone | ⟨ending, hended⟩
  · rw [hgone] at h
    cases h
  · rw [hended] at h
    cases ending <;> cases h

section Resolved

variable (hw : d.words? text = some (name, args)) (hs : d.select who name s = (.ok root, s₁))
  (hr : d.resolve who root args s₁.host = (.ok path, h)) (hv : (H.isValid who h).1 = true)

include hw hs hr hv

/-- A command with a handler on its way calls the deepest one. -/
theorem exists_approaches (hbusy : ∃ id ∈ root :: path, d.registry.hasHandler id = true) :
    ∃ a, d.Approaches who text s a ∧ a.root = root ∧ a.args = args ∧ a.path = path ∧
      a.chosen = s₁ := by
  obtain ⟨id, hid, hhandler⟩ := hbusy
  cases hd : d.registry.deepestHandler? root path with
  | none =>
    rw [Registry.deepestHandler?_eq_none_iff.mp hd id hid] at hhandler
    cases hhandler
  | some found =>
    obtain ⟨node, handler, taken⟩ := found
    exact ⟨⟨name, args, root, s₁, path, h, (H.isValid who h).2, node, handler, taken⟩,
      ⟨hw, hs, resolve_eq_ok.mp hr, Prod.ext hv rfl, hd⟩, rfl, rfl, rfl, rfl⟩

/-- A command without one is incomplete, and its words have led to the end of a branch. -/
theorem outcome_of_idle (hidle : ∀ id ∈ root :: path, d.registry.hasHandler id = false) :
    (d.dispatch who text s).outcome = .failed (.incomplete
        (d.sigil ++ d.registry.describe (path.getLastD root))) ∧
      d.registry.children (path.getLastD root) = [] := by
  have hd := Registry.deepestHandler?_eq_none_iff.mpr hidle
  obtain ⟨h', hstays⟩ : ∃ h', H.isValid who h = (true, h') := ⟨_, Prod.ext hv rfl⟩
  refine ⟨?_, Registry.children_of_walk (resolve_eq_ok.mp hr) (hidle _ List.getLastD_mem_cons)⟩
  rw [dispatch_of_resolved hw hs hr, tell_outcome, List.getLastD_eq_getLast?]
  simp only [follow, hstays, hd]

/-- **A command is incomplete just if there is no handler on its way.** -/
theorem incomplete_iff : (∃ command, (d.dispatch who text s).outcome =
      .failed (.incomplete command)) ↔ ∀ id ∈ root :: path, d.registry.hasHandler id = false := by
  constructor
  · rintro ⟨command, hout⟩ id hid
    by_contra hhandler
    rw [Bool.not_eq_false] at hhandler
    obtain ⟨a, ha, -⟩ := exists_approaches hw hs hr hv ⟨id, hid, hhandler⟩
    rw [ha.dispatch_eq, tell_outcome] at hout
    exact call_ne_incomplete command hout
  · exact fun hidle => ⟨_, (outcome_of_idle hw hs hr hv hidle).1⟩

end Resolved

/-- How a command comes to be incomplete. -/
theorem exists_of_incomplete {command : String}
    (hout : (d.dispatch who text s).outcome = .failed (.incomplete command)) :
    ∃ name args root s₁ path h, d.words? text = some (name, args) ∧
      d.select who name s = (.ok root, s₁) ∧ d.resolve who root args s₁.host = (.ok path, h) ∧
      (H.isValid who h).1 = true := by
  have hcourse := dispatch_course d who text s
  generalize d.dispatch who text s = x at hcourse hout
  cases hcourse with
  | ignored _ => cases hout
  | refused _ hs =>
    cases hout
    cases select_isEarly hs
  | unresolved _ _ hr =>
    cases hout
    cases resolve_isEarly hr
  | gone _ _ _ _ => cases hout
  | incomplete hw hs hr hv _ =>
    exact ⟨_, _, _, _, _, _, hw, hs, resolve_eq_ok.mpr hr, congrArg Prod.fst hv⟩
  | called _ => exact absurd hout (call_ne_incomplete command)

/-- **No command is incomplete where every node without children has a handler.** -/
theorem not_incomplete_of_finished (hr : d.registry.Reachable) (hf : d.registry.Finished)
    (who : H.Who) (text : String) (s : Session H) (command : String) :
    (d.dispatch who text s).outcome ≠ .failed (.incomplete command) := by
  intro hout
  obtain ⟨name, args, root, s₁, path, h, hw, hs, hres, hv⟩ := exists_of_incomplete hout
  have hidle := (incomplete_iff hw hs hres hv).mp ⟨command, hout⟩
  obtain ⟨-, hleaf⟩ := outcome_of_idle hw hs hres hv hidle
  -- The node that the words have led to is there, so it would have a handler.
  have hnodes : ∀ id ∈ root :: path, ∃ node, d.registry.node? id = some node := by
    obtain ⟨node, hselected⟩ := select_eq_ok hs
    obtain ⟨last, rest, s', hdescent, -⟩ := Registry.walk_eq_ok (resolve_eq_ok.mp hres)
    exact List.forall_mem_cons.mpr ⟨⟨node, hselected.stands⟩, hdescent.exists_node? hr.wellFormed⟩
  obtain ⟨node, hnode⟩ := hnodes _ List.getLastD_mem_cons
  obtain ⟨handler, hhandler⟩ := hf.exists_handler? hnode hleaf
  rw [Registry.hasHandler_eq_false_iff.mp (hidle _ List.getLastD_mem_cons)] at hhandler
  cases hhandler

/-- **Which handler is called, and with what, and when there is none.**  If the words of a command
are resolved and its player is still there, the handler of the last node that has one is called with
what the nodes up to it contribute; a command without any is incomplete, and then its words have led
to a node without children.  Where all such nodes have handlers no command is incomplete.  The
built-in commands keep it so, and where there are no others it is so. -/
theorem calls_deepest (hr : d.registry.Reachable) :
    (∀ who text s name args root s₁ path h, d.words? text = some (name, args) →
      d.select who name s = (.ok root, s₁) → d.resolve who root args s₁.host = (.ok path, h) →
      (H.isValid who h).1 = true →
      ((∃ id ∈ root :: path, d.registry.hasHandler id = true) →
        ∃ a, d.Approaches who text s a ∧ a.root = root ∧ a.args = args ∧ a.path = path ∧
          a.chosen = s₁ ∧ d.registry.Deepest root path a.node a.handler a.taken ∧
          d.Sourced who a ∧ d.dispatch who text s =
            tell who (d.call who root a.node a.handler (d.values who a) (d.calling who a))) ∧
      ((∃ command, (d.dispatch who text s).outcome = .failed (.incomplete command)) ↔
        ∀ id ∈ root :: path, d.registry.hasHandler id = false) ∧
      ((∀ id ∈ root :: path, d.registry.hasHandler id = false) →
        (d.dispatch who text s).outcome = .failed (.incomplete
            (d.sigil ++ d.registry.describe (path.getLastD root))) ∧
          d.registry.children (path.getLastD root) = [])) ∧
    (d.registry.Finished → ∀ who text s command,
      (d.dispatch who text s).outcome ≠ .failed (.incomplete command)) ∧
    (d.registry.Finished → ∀ step ∈ [BuildStep.help, .teleport],
      (d.registry.apply step).registry.Finished) ∧
    ∀ steps, d.registry = .ofSteps steps → (∀ step ∈ steps, step ∈ [BuildStep.help, .teleport]) →
      d.registry.Finished := by
  refine ⟨fun who text s name args root s₁ path h hw hs hres hv => ⟨fun hbusy => ?_,
    incomplete_iff hw hs hres hv, outcome_of_idle hw hs hres hv⟩,
    not_incomplete_of_finished hr, fun hf step hstep => hf.apply_builtin hr.wellFormed hstep,
    fun steps hd hsteps => ?_⟩
  · obtain ⟨a, ha, rfl, rfl, rfl, rfl⟩ := exists_approaches hw hs hres hv hbusy
    exact ⟨a, ha, rfl, rfl, rfl, rfl, Registry.deepestHandler?_eq_some_iff.mp ha.deepest,
      ha.sourced hr, ha.dispatch_eq⟩
  · rw [hd]
    exact Registry.finished_builtin hsteps

/-- Of the two nodes that ann's words lead to the second has no handler, so that of the first is
called, without the number.  The keyword alone leads to no handler. -/
theorem calls_deepest_gate :
    let d : Dispatcher (Host.still Unit) :=
      ⟨Registry.gateTree, "-", fun _ _ _ s => ⟨.done, 3, s⟩, fun _ _ => none⟩
    (∃ a, d.Approaches "ann" "-gate open 5" (.start ()) a ∧ a.path = [2, 3] ∧ a.taken = [2] ∧
      a.node = 2 ∧ (d.values "ann" a).map Value.kind = [.text]) ∧
    (d.dispatch "ann" "-gate admin" (.start ())).outcome =
      .failed (.incomplete "-gate admin") := by
  intro d
  obtain ⟨hresolved, -⟩ := calls_deepest (d := d) ⟨_, rfl⟩
  have hs : (d.select "ann" "gate" (.start ())).1 = .ok 0 := by decide +kernel
  constructor
  · have hw : d.words? "-gate open 5" = some ("gate", ["open", "5"]) := by decide +kernel
    have hr : (d.resolve "ann" 0 ["open", "5"] ()).1 = .ok [2, 3] := by decide +kernel
    have hbusy : ∃ id ∈ [0, 2, 3], d.registry.hasHandler id = true := by decide +kernel
    have hdeep : (d.registry.deepestHandler? 0 [2, 3]).map (fun found => (found.1, found.2.2)) =
        some (2, [2]) := by decide +kernel
    obtain ⟨hcalled, -, -⟩ := hresolved "ann" "-gate open 5" (.start ()) "gate" ["open", "5"] 0 _
      [2, 3] _ hw (Prod.ext hs rfl) (Prod.ext hr rfl) rfl
    obtain ⟨a, ha, hroot, hargs, hpath, -, -, -, -⟩ := hcalled hbusy
    have hfound := ha.deepest
    rw [hroot, hpath] at hfound
    rw [hfound, Option.map_some, Option.some.injEq, Prod.mk.injEq] at hdeep
    obtain ⟨hnode : a.node = 2, htaken : a.taken = [2]⟩ := hdeep
    refine ⟨a, ha, hpath, htaken, hnode, ?_⟩
    have hkinds : (d.registry.extract "ann" [2] ["open", "5"] ()).1.map Value.kind = [.text] := by
      decide +kernel
    rw [values, htaken, hargs]
    exact hkinds
  · have hw : d.words? "-gate admin" = some ("gate", ["admin"]) := by decide +kernel
    have hr : (d.resolve "ann" 0 ["admin"] ()).1 = .ok [1] := by decide +kernel
    have hidle : ∀ id ∈ [0, 1], d.registry.hasHandler id = false := by decide +kernel
    obtain ⟨-, -, hincomplete⟩ := hresolved "ann" "-gate admin" (.start ()) "gate" ["admin"] 0 _
      [1] _ hw (Prod.ext hs rfl) (Prod.ext hr rfl) rfl
    obtain ⟨hout, -⟩ := hincomplete hidle
    rw [hout]
    decide +kernel

end Dispatcher

end CommandTree
