import CommandTree.Proofs.Dispatch.Course
import CommandTree.Proofs.Dispatch.Readings
import CommandTree.Proofs.Dispatch.Selection
import CommandTree.Rehearsal.Cast

/-!
# The values a handler is given

Values are read off the words a second time when the handler is called, and by then
the world may have moved on: a player who was there has left, a type of the host
answers differently.  A handler that is entered all the same was given the reading
of each contributing node of its path, in order.  If a reading fails the handler is
not entered, however well the remaining values would suit it.  And readings do not
fail if the answers of the surroundings are the same both times.

## Main definitions

* `Dispatcher.Supplied` — a handler is given the readings of its path and nothing else.
* `Registry.Trustworthy` — what is asked of the types of a host.

## Main results

* `entry_supplied` — a handler that is entered is supplied, and a failed reading keeps it
  from being entered.
* `calls_enter` — with the same answers both times, a handler that is called is entered.
-/

namespace CommandTree

variable {H : Host}

namespace Dispatcher

variable {d : Dispatcher H} {who : H.Who} {text : String} {s : Session H} {a : Approach H}

/-! ### The path of an approach -/

/-- The path to the node whose handler is called is the one the words have chosen. -/
theorem Approaches.path_node (hr : d.registry.Reachable) (ha : d.Approaches who text s a) :
    d.registry.path a.node = a.root :: a.taken := by
  obtain ⟨node, hselected⟩ := select_eq_ok ha.selected
  obtain ⟨rest, t, hdescent⟩ := ha.descent_taken
  rw [hdescent.path_eq hr.wellFormed, (Registry.path_findRoot? hr.wellFormed hselected.found).1,
    List.singleton_append]

/-- What the handler takes is what the nodes of the path contribute; the root contributes
nothing. -/
theorem Approaches.params_eq (hr : d.registry.Reachable) (ha : d.Approaches who text s a) :
    d.registry.schema a.node = a.handler.params ∧
      a.handler.params = a.taken.filterMap d.registry.valueKind? := by
  obtain ⟨hhandler, -, -⟩ := Registry.deepestHandler?_eq_some ha.deepest
  obtain ⟨node, hselected⟩ := select_eq_ok ha.selected
  have hroot := (Registry.path_findRoot? hr.wellFormed hselected.found).2
  have hschema := hr.fitted hhandler
  refine ⟨hschema, ?_⟩
  rw [← hschema, Registry.schema, ha.path_node hr, List.filterMap_cons_none hroot]

theorem Approaches.exists_node? (hr : d.registry.Reachable) (ha : d.Approaches who text s a) :
    ∀ id ∈ a.taken, ∃ node, d.registry.node? id = some node := by
  obtain ⟨rest, t, hdescent⟩ := ha.descent_taken
  exact hdescent.exists_node? hr.wellFormed

theorem Approaches.length_taken_le (ha : d.Approaches who text s a) :
    a.taken.length ≤ a.args.length := by
  obtain ⟨rest, t, hdescent⟩ := ha.descent_taken
  exact hdescent.length_le

/-! ### Handlers that are entered -/

/-- The handler that is entered is that of the approach, and it is given the readings of its path,
one for each contributing node, and nothing else. -/
structure Supplied (d : Dispatcher H) (who : H.Who) (a : Approach H) (e : Entry H) : Prop where
  /-- It is on the node of the approach. -/
  node : e.node = a.node
  /-- It is the handler of the approach. -/
  handler : e.handler = a.handler
  /-- The path to its node is the root of the command and the nodes that took the words. -/
  path : d.registry.path e.node = a.root :: a.taken
  /-- The root contributes no value. -/
  root : d.registry.valueKind? a.root = none
  /-- It takes what its node produces. -/
  schema : d.registry.schema e.node = e.handler.params
  /-- The values are of the kinds it takes, one for each. -/
  kinds : e.values.map Value.kind = e.handler.params
  /-- The values are the readings of the contributing nodes in order, none of which failed. -/
  values : e.values.map some = (d.registry.bearing a.taken).map
    (d.registry.readingAt who a.taken a.args a.host)

/-- Values that suit the handler of an approach supply it. -/
theorem Approaches.supplied (hr : d.registry.Reachable) (ha : d.Approaches who text s a)
    (hk : firstMismatch? a.handler.params (d.values who a) = none) :
    d.Supplied who a ⟨a.node, a.handler, (d.values who a).take a.handler.params.length⟩ := by
  obtain ⟨hschema, hparams⟩ := ha.params_eq hr
  obtain ⟨node, hselected⟩ := select_eq_ok ha.selected
  have hcount := (firstMismatch?_eq_none_iff.mp hk).1
  have hnodes := ha.exists_node? hr
  have hle := ha.length_taken_le
  refine ⟨rfl, rfl, ha.path_node hr, (Registry.path_findRoot? hr.wellFormed hselected.found).2,
    hschema, kinds_take_of_firstMismatch?_eq_none hk, ?_⟩
  -- There are enough values, so no reading failed and there are not too many either.
  have hvalues : (d.values who a).map some =
      (d.registry.bearing a.taken).map (d.registry.readingAt who a.taken a.args a.host) := by
    refine Registry.extract_eq_of_length hnodes hle ?_
    rwa [hparams] at hcount
  have hlength : (d.values who a).length = a.handler.params.length := by
    have h := congrArg List.length hvalues
    rwa [List.length_map, List.length_map, Registry.length_bearing, ← hparams] at h
  change ((d.values who a).take _).map some = _
  rw [← hlength, List.take_length, hvalues]

/-- A failed reading leaves the handler with a value too few. -/
theorem Approaches.exists_mismatch (hr : d.registry.Reachable) (ha : d.Approaches who text s a)
    {i : Nat} (hi : i ∈ d.registry.bearing a.taken)
    (hnone : d.registry.readingAt who a.taken a.args a.host i = none) :
    ∃ kind, firstMismatch? a.handler.params (d.values who a) = some kind := by
  have hlt : (d.values who a).length < (a.taken.filterMap d.registry.valueKind?).length :=
    Registry.length_extract_lt (ha.exists_node? hr) ha.length_taken_le hi hnone
  rw [← (ha.params_eq hr).2] at hlt
  cases hk : firstMismatch? a.handler.params (d.values who a) with
  | some kind => exact ⟨kind, rfl⟩
  | none => exact absurd (firstMismatch?_eq_none_iff.mp hk).1 (Nat.not_le_of_lt hlt)

/-- The player is there when the handler begins, and again when it has ended without doing
anything. -/
def stays (d : Dispatcher H) (who : H.Who) (a : Approach H) : Bool :=
  (H.isValid who (d.calling who a).host).1 &&
    (H.isValid who (H.isValid who (d.calling who a).host).2).1

/-- What becomes of a command whose handler is called with values that do not suit it: the handler
is not entered, the player is told so if they are still there, and no use is recorded. -/
theorem Approaches.dispatch_of_mismatch (ha : d.Approaches who text s a) {kind : ValueKind}
    (hk : firstMismatch? a.handler.params (d.values who a) = some kind) :
    (d.dispatch who text s).entry = none ∧
      (d.dispatch who text s).outcome =
        (if d.stays who a then
          handlerFailure (d.registry.describe a.node)
            ("argument does not convert to " ++ kind.word) []
        else .senderGone) ∧
      (d.dispatch who text s).session.cooldowns = a.chosen.cooldowns := by
  rw [ha.dispatch_eq, tell_entry, tell_outcome, tell_cooldowns, stays]
  cases hv : H.isValid who (d.calling who a).host with
  | mk valid h =>
    cases valid with
    | false => rw [call_eq_gone hv]; exact ⟨rfl, rfl, rfl⟩
    | true =>
      rw [call_eq_mismatch hv hk]
      refine ⟨closing_entry .., closing_outcome .., ?_⟩
      have hother : (d.closing who a.root a.node none (mismatched kind h)
          { d.calling who a with host := h }).outcome ≠ .executed := by
        rw [closing_outcome]
        split <;> exact nofun
      rw [closing_cooldowns, if_neg fun h => hother h.1]
      rfl

/-- **A handler that is entered was given the readings of its path, in order, and nothing else; if
one of them failed, it is not entered.**  Then the command fails, or its player has left, and no
use is recorded. -/
theorem entry_supplied (hr : d.registry.Reachable) (who : H.Who) (text : String) (s : Session H) :
    (∀ e, (d.dispatch who text s).entry = some e →
      ∃ a, d.Approaches who text s a ∧ d.Supplied who a e ∧
        d.dispatch who text s = tell who (d.closing who a.root e.node (some e)
          (e.handler.task.perform d.program ⟨who, d.registry, d.sigil, e.node⟩ e.values
            (H.isValid who (d.calling who a).host).2)
          { d.calling who a with host := (H.isValid who (d.calling who a).host).2 })) ∧
    ∀ a, d.Approaches who text s a →
      (∃ i ∈ d.registry.bearing a.taken,
        d.registry.readingAt who a.taken a.args a.host i = none) →
      (d.dispatch who text s).entry = none ∧
      (∃ kind : ValueKind, (d.dispatch who text s).outcome =
        if d.stays who a then
          handlerFailure (d.registry.describe a.node)
            ("argument does not convert to " ++ kind.word) []
        else .senderGone) ∧
      ∀ key last, (d.dispatch who text s).session.cooldowns.lastUse? key = some last →
        s.cooldowns.lastUse? key = some last := by
  constructor
  · intro e he
    obtain ⟨a, ha, hv, hk, rfl⟩ := entry_eq_some he
    refine ⟨a, ha, ha.supplied hr hk, ?_⟩
    rw [ha.dispatch_eq, call_eq_entered (Prod.ext hv rfl) hk]
  · rintro a ha ⟨i, hi, hnone⟩
    obtain ⟨kind, hk⟩ := ha.exists_mismatch hr hi hnone
    obtain ⟨hentry, houtcome, hcooldowns⟩ := ha.dispatch_of_mismatch hk
    refine ⟨hentry, ⟨kind, houtcome⟩, fun key last hlast => ?_⟩
    -- The table is the one the choice of the command has left, and that takes answers back at most.
    rw [hcooldowns] at hlast
    have hfades := select_cooldowns d who a.name s key
    rw [ha.selected] at hfades
    rcases hfades with hkept | ⟨hgone, -⟩
    · rw [← hkept, hlast]
    · rw [hgone] at hlast
      cases hlast

/-- Someone who can be found is marked; someone who can be found only once is gone when the word is
read again, and then the command fails. -/
theorem entry_supplied_mark :
    let d := markDispatcher (Cast.host Unit) () fun _ _ _ s => ⟨.done, 3, s⟩
    let cast (lookups : Option Nat) : Session (Cast.host Unit) :=
      .start ⟨[⟨"ann", true, [true], .origin, .origin, true, lookups, []⟩]⟩
    (∃ e a, (d.dispatch (some "ann") "-mark ann mark" (cast none)).entry = some e ∧
      e.handler.params = [.player, .text] ∧ d.Supplied (some "ann") a e) ∧
    (d.dispatch (some "ann") "-mark ann mark" (cast (some 1))).entry.isNone := by
  intro d cast
  have hr : d.registry.Reachable := reachable_mark ..
  constructor
  · have hsome : (d.dispatch (some "ann") "-mark ann mark" (cast none)).entry.isSome = true := by
      decide +kernel
    have hparams : (d.dispatch (some "ann") "-mark ann mark" (cast none)).entry.map
        (·.handler.params) = some [.player, .text] := by decide +kernel
    obtain ⟨e, he⟩ := Option.isSome_iff_exists.mp hsome
    obtain ⟨a, -, hsupplied, -⟩ := (entry_supplied hr _ _ _).1 e he
    rw [he, Option.map_some, Option.some.injEq] at hparams
    exact ⟨e, a, he, hparams, hsupplied⟩
  · decide +kernel

end Dispatcher

/-! ### The same answers both times -/

/-- Every type that the host adds to an argument of the registry is pure and honest. -/
def Registry.Trustworthy (r : Registry H) : Prop :=
  ∀ ⦃id node type⦄, r.node? id = some node → node.argument.type = .custom type →
    type.Pure ∧ type.Honest

namespace Dispatcher

variable {d : Dispatcher H} {who : H.Who} {text : String} {s : Session H} {a : Approach H}

/-- Whenever a node was asked on the way to the handler and whenever one is read now, the same
players are found. -/
def Steady (d : Dispatcher H) (who : H.Who) (a : Approach H) : Prop :=
  ∀ m, d.registry.AskedDuring who a.root a.args a.chosen.host m →
    ∀ i ∈ d.registry.bearing a.taken,
      H.SameAnswers m (d.registry.stateAt who a.taken a.args a.host i)

/-- **A word that was taken is read again with success**: each contributing node has a reading, of
the kind it contributes. -/
theorem Approaches.exists_reading (ha : d.Approaches who text s a)
    (htrust : d.registry.Trustworthy) (hsteady : d.Steady who a) {i : Nat}
    (hi : i ∈ d.registry.bearing a.taken) :
    ∃ v : Value H.Who, d.registry.readingAt who a.taken a.args a.host i = some v ∧
      (a.taken[i]?.bind d.registry.valueKind?) = some v.kind ∧ v.converts v.kind = true := by
  obtain ⟨id, node, kind, hid, hnode, hkind, hvalue⟩ := Registry.exists_of_mem_bearing hi
  have hreading : d.registry.readingAt who a.taken a.args a.host i =
      node.reads d.registry.commandNames who (a.args.drop i)
        (d.registry.stateAt who a.taken a.args a.host i) := by
    rw [Registry.readingAt, hid, Option.bind_some, hnode, Option.bind_some]
  rw [hreading, hid, Option.bind_some, hvalue, Node.reads]
  cases haxis : node.argument.isAxis with
  | true =>
    -- An axis gives a place whatever the words are.
    refine ⟨_, if_pos rfl, ?_, rfl⟩
    rw [node.argument.kind_of_isAxis haxis hkind]
    rfl
  | false =>
    -- The node took this very word during the walk, and the answer now is the same as then.
    obtain ⟨rest, t, hdescent⟩ := ha.descent_taken
    obtain ⟨word, m, m', hword, hasked, htaken, -⟩ := hdescent.exists_askedDuring hid
    rw [Registry.accepts_eq hnode, Prod.mk.injEq] at htaken
    obtain ⟨v, hv⟩ := Option.isSome_iff_exists.mp htaken.1
    have hpure : ∀ type, node.argument.type = .custom type → type.Pure :=
      fun type htype => (htrust hnode htype).1
    have hhonest : ∀ type, node.argument.type = .custom type → type.Honest :=
      fun type htype => (htrust hnode htype).2
    have hconverts := node.argument.converts_of_accept hhonest hkind haxis hv
    rw [node.argument.accept_congr hpure (hsteady m hasked i hi)] at hv
    refine ⟨v, ?_, ?_, ?_⟩
    · rw [if_neg Bool.false_ne_true, List.head?_drop, hword, Option.bind_some, hv]
    · rw [(Value.converts_iff.mp hconverts).1]
    · rwa [(Value.converts_iff.mp hconverts).1]

/-- **With the same answers both times, a handler that is called is entered**: its values are of
just the kinds that its node produces, so none of them fails to convert. -/
theorem calls_enter (hr : d.registry.Reachable) (htrust : d.registry.Trustworthy)
    (ha : d.Approaches who text s a) (hsteady : d.Steady who a) :
    (d.values who a).map Value.kind = d.registry.schema a.node ∧
      firstMismatch? a.handler.params (d.values who a) = none ∧
      ((H.isValid who (d.calling who a).host).1 = true →
        (d.dispatch who text s).entry = some ⟨a.node, a.handler, d.values who a⟩) := by
  obtain ⟨hschema, hparams⟩ := ha.params_eq hr
  have hvalues : d.values who a = (d.registry.bearing a.taken).filterMap
      (d.registry.readingAt who a.taken a.args a.host) :=
    Registry.extract_eq (ha.exists_node? hr) ha.length_taken_le
  have hkinds : (d.values who a).map Value.kind = a.handler.params := by
    rw [hvalues, List.map_filterMap, hparams, ← Registry.filterMap_bearing]
    refine List.filterMap_congr fun i hi => ?_
    obtain ⟨v, hreading, hkind, -⟩ := ha.exists_reading htrust hsteady hi
    rw [hreading, hkind, Option.map_some]
  -- Kinds alone do not do: an unresolved axis has a kind but converts to nothing.
  have hresolved : ∀ v ∈ d.values who a, ∀ c, v ≠ .coordinate c := by
    intro v hv
    rw [hvalues] at hv
    obtain ⟨i, hi, hiv⟩ := List.mem_filterMap.mp hv
    obtain ⟨w, hreading, -, hconverts⟩ := ha.exists_reading htrust hsteady hi
    rw [hreading, Option.some.injEq] at hiv
    exact hiv ▸ (Value.converts_iff.mp hconverts).2
  have hk : firstMismatch? a.handler.params (d.values who a) = none :=
    hkinds ▸ firstMismatch?_kinds hresolved
  refine ⟨hkinds.trans hschema.symm, hk, fun hv => ?_⟩
  have htake : (d.values who a).take a.handler.params.length = d.values who a := by
    rw [← hkinds, List.length_map, List.take_length]
  rw [ha.dispatch_eq, tell_entry, call_entry_eq_some]
  exact ⟨hv, hk, by rw [htake]⟩

/-- Where everyone can always be found, someone is marked. -/
theorem calls_enter_mark :
    let d := markDispatcher (Host.still Unit) () fun _ _ _ s => ⟨.done, 3, s⟩
    ∃ a, d.Approaches "ann" "-mark bob mark" (.start ()) a ∧ d.Steady "ann" a ∧
      d.registry.Trustworthy ∧ d.registry.schema a.node = [.player, .text] ∧
      (d.values "ann" a).map Value.kind = [.player, .text] := by
  intro d
  have hr : d.registry.Reachable := reachable_mark ..
  have hentered : (d.dispatch "ann" "-mark bob mark" (.start ())).entry.map (·.node) = some 2 := by
    decide +kernel
  have hschema : d.registry.schema 2 = [.player, .text] := by decide +kernel
  obtain ⟨e, he, hnode⟩ := Option.map_eq_some_iff.mp hentered
  obtain ⟨a, ha, -, -, rfl⟩ := entry_eq_some he
  have hsteady : d.Steady "ann" a := fun _ _ _ _ _ => rfl
  have htrust : d.registry.Trustworthy := by
    intro id node type hnode htype
    rw [custom_mark hnode htype]
    exact commandNameType_trustworthy _
  obtain ⟨hkinds, -, -⟩ := calls_enter hr htrust ha hsteady
  change a.node = 2 at hnode
  rw [hnode, hschema] at hkinds
  exact ⟨a, ha, hsteady, htrust, by rw [hnode, hschema], hkinds⟩

end Dispatcher

end CommandTree
