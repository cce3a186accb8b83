import CommandTree.Proofs.Dispatch.Values
import CommandTree.Proofs.Registry.Locations

/-!
# Places among the values

The first axis of a location reads three words, its own and the two after it,
whichever nodes took them; a word that is missing or is no coordinate counts as one
that leaves the player where they are.  Where locations are whole it never comes to
that: the two words after that of a first axis were taken by the other two axes, so
all three are coordinates, and no other node reads any of them.

## Main definitions

* `Registry.span`, `Registry.consulted` — the words that one value is read from, and all of them.
* `Dispatcher.TookAxis` — a node of a path took its word as a coordinate.
* `Dispatcher.Apportioned` — every value has words of the path to itself.

## Main results

* `readings_congr` — only the words that are consulted matter.
* `Approaches.exists_axes` — the axes of a location follow one another on a path.
* `Approaches.apportioned` — the values share no word.
* `place_of_axes` — the place that a handler is given is that of the coordinates that the axes took.
-/

namespace CommandTree

variable {H : Host}

/-- What a coordinate makes of a word does not depend on the state. -/
theorem Argument.accept_of_isAxis {a : Argument H} (h : a.isAxis = true) (commands : List String)
    (word : String) (s : H.State) :
    a.accept commands word s = ((Coordinate.read? word).map .coordinate, s) := by
  obtain ⟨name, type⟩ := a
  cases type <;> first | rfl | cases h

namespace Registry

variable {r : Registry H} {who : H.Who} {path : List NodeId} {words words' : List String}

/-! ### The words that are read -/

/-- The positions of the words that are read at a position of a path. -/
def span (r : Registry H) (path : List NodeId) (i : Nat) : List Nat :=
  if (path[i]?.bind r.node?).any (·.argument.isAxis) then [i, i + 1, i + 2] else [i]

/-- The positions of all words that are read along a path. -/
def consulted (r : Registry H) (path : List NodeId) : List Nat :=
  (r.bearing path).flatMap (r.span path)

/-- What the node at a position of a path is read as in a given state of the host. -/
def readIn (r : Registry H) (who : H.Who) (path : List NodeId) (words : List String) (i : Nat)
    (s : H.State) : Option (Value H.Who) :=
  (path[i]?.bind r.node?).bind fun node => node.reads r.commandNames who (words.drop i) s

/-- Positions are read in the state that the ones before have left. -/
theorem readingAt_eq_readIn (r : Registry H) (who : H.Who) (path : List NodeId)
    (words : List String) (s : H.State) (i : Nat) : r.readingAt who path words s i =
      r.readIn who path words i (r.stateAt who path words s i) :=
  rfl

theorem mem_span (r : Registry H) (path : List NodeId) (i : Nat) : i ∈ r.span path i := by
  rw [span]
  split <;> exact List.mem_cons_self

/-- No node reads further than to the second word after its own. -/
theorem le_of_mem_span {i j : Nat} (h : j ∈ r.span path i) : j ≤ i + 2 := by
  rw [span] at h
  split at h <;> simp at h <;> omega

/-- **A node is read from the words of its span alone.** -/
theorem readIn_congr {i : Nat} (h : ∀ j ∈ r.span path i, words[j]? = words'[j]?) (s : H.State) :
    r.readIn who path words i s = r.readIn who path words' i s := by
  rw [readIn, readIn]
  cases hnode : path[i]?.bind r.node? with
  | none => rfl
  | some node =>
    rw [Option.bind_some, Option.bind_some, Node.reads, Node.reads]
    rw [span, hnode, Option.any_some] at h
    cases haxis : node.argument.isAxis with
    | true =>
      rw [haxis, if_pos rfl] at h
      simp only [if_true, locationOf, List.getElem?_drop, Nat.add_zero, h i (by simp),
        h (i + 1) (by simp), h (i + 2) (by simp)]
    | false =>
      rw [haxis, if_neg Bool.false_ne_true] at h
      simp only [Bool.false_eq_true, if_false, List.head?_drop, h i (by simp)]

theorem span_succ (r : Registry H) (id : NodeId) (path : List NodeId) (i : Nat) :
    r.span (id :: path) (i + 1) = (r.span path i).map Nat.succ := by
  rw [span, span, List.getElem?_cons_succ]
  split <;> rfl

theorem consulted_cons (r : Registry H) (id : NodeId) (path : List NodeId) :
    r.consulted (id :: path) =
      (if (r.valueKind? id).isSome then r.span (id :: path) 0 else []) ++
        (r.consulted path).map Nat.succ := by
  have htail : ((r.bearing path).map Nat.succ).flatMap (r.span (id :: path)) =
      (r.consulted path).map Nat.succ := by
    rw [consulted, List.flatMap_map, List.map_flatMap]
    exact List.flatMap_congr fun i _ => span_succ r id path i
  rw [consulted, bearing_cons, List.flatMap_append, htail]
  split <;> simp

/-- **Only the words that are consulted matter** for what is read along a path, and for what that
does to the host. -/
theorem readings_congr : ∀ {path : List NodeId} {words words' : List String} (s : H.State),
    (∀ id ∈ path, ∃ node, r.node? id = some node) → path.length ≤ words.length →
    path.length ≤ words'.length → (∀ j ∈ r.consulted path, words[j]? = words'[j]?) →
    r.readings who path words s = r.readings who path words' s
  | [], words, words', s, _, _, _, _ => by cases words <;> cases words' <;> rfl
  | _ :: _, [], _, _, _, hlen, _, _ => absurd hlen (by simp)
  | _ :: _, _, [], _, _, _, hlen, _ => absurd hlen (by simp)
  | id :: path, word :: words, word' :: words', s, hnodes, hlen, hlen', h => by
    obtain ⟨node, hnode⟩ := hnodes id List.mem_cons_self
    rw [consulted_cons] at h
    have hhere : (r.valueKind? id).isSome = true →
        node.reads r.commandNames who (word :: words) s =
          node.reads r.commandNames who (word' :: words') s ∧ word = word' := by
      intro hkind
      rw [if_pos hkind] at h
      have hspan := fun j hj => h j (List.mem_append_left _ hj)
      have hread : r.readIn who (id :: path) (word :: words) 0 s =
          r.readIn who (id :: path) (word' :: words') 0 s := readIn_congr hspan s
      have hword := hspan 0 (mem_span r (id :: path) 0)
      simp only [readIn, List.getElem?_cons_zero, Option.bind_some, hnode, List.drop_zero] at hread
      exact ⟨hread, by simpa using hword⟩
    -- The rest is read in the same state, for only nodes that contribute are asked.
    have hafter : node.stateAfter r.commandNames word s =
        node.stateAfter r.commandNames word' s := by
      cases hkind : r.valueKind? id with
      | none =>
        rw [valueKind?_eq hnode] at hkind
        simp [Node.stateAfter, hkind]
      | some kind => rw [(hhere (by rw [hkind]; rfl)).2]
    have hrest : r.readings who path words (node.stateAfter r.commandNames word' s) =
        r.readings who path words' (node.stateAfter r.commandNames word' s) := readings_congr _
      (fun j hj => hnodes j (List.mem_cons_of_mem _ hj)) (Nat.le_of_succ_le_succ hlen)
      (Nat.le_of_succ_le_succ hlen') fun j hj => by
        simpa using h (j + 1) (List.mem_append_right _ (List.mem_map_of_mem hj))
    rw [readings_cons hnode, readings_cons hnode, hafter, hrest]
    cases hkind : (r.valueKind? id).isSome with
    | true => rw [(hhere hkind).1]
    | false => rfl

/-! ### Axes on a path -/

/-- After a node that a descent does not end on comes one of its children. -/
theorem Descent.exists_child {id last x : NodeId} {rest : List String} {s t : H.State}
    (h : r.Descent who id words s path last rest t) {i : Nat} (hx : path[i]? = some x)
    (hlast : x ≠ last) : ∃ y ∈ r.children x, path[i + 1]? = some y := by
  induction h generalizing i with
  | stay => simp at hx
  | step _ _ hrest ih =>
    cases i with
    | succ i => exact ih hx hlast
    | zero =>
      obtain rfl := Option.some.inj hx
      cases hrest with
      | stay => exact absurd rfl hlast
      | step htake => exact ⟨_, firstAccepting_mem htake, rfl⟩

end Registry

namespace Dispatcher

variable {d : Dispatcher H} {who : H.Who} {text : String} {s : Session H} {a : Approach H}

/-- The node at a position of the path of an approach took its word as the given coordinate when it
was asked. -/
def TookAxis (d : Dispatcher H) (who : H.Who) (a : Approach H) (i : Nat) (c : Coordinate) : Prop :=
  ∃ id node word m, a.taken[i]? = some id ∧ d.registry.node? id = some node ∧
    a.args[i]? = some word ∧ d.registry.AskedDuring who a.root a.args a.chosen.host m ∧
    node.argument.accept d.registry.commandNames word m = (some (.coordinate c), m)

/-- An axis on the path took its word as a coordinate. -/
theorem Approaches.exists_tookAxis (ha : d.Approaches who text s a) {i : Nat} {id : NodeId}
    {node : Node H} (hid : a.taken[i]? = some id) (hnode : d.registry.node? id = some node)
    (haxis : node.argument.isAxis = true) : ∃ c, d.TookAxis who a i c := by
  obtain ⟨rest, t, hdescent⟩ := ha.descent_taken
  obtain ⟨word, m, m', hword, hasked, htaken, -⟩ := hdescent.exists_askedDuring hid
  have haccept := Argument.accept_of_isAxis haxis d.registry.commandNames word m
  rw [Registry.accepts_eq hnode, haccept] at htaken
  cases hread : Coordinate.read? word with
  | none =>
    rw [hread] at htaken
    cases htaken
  | some c =>
    rw [hread] at haccept
    exact ⟨c, id, node, word, m, hid, hnode, hword, hasked, haccept⟩

/-- So the word stands for that coordinate when it is read again. -/
theorem TookAxis.coordinateOr_eq {i : Nat} {c : Coordinate} (h : d.TookAxis who a i c)
    {id : NodeId} {node : Node H} (hid : a.taken[i]? = some id)
    (hnode : d.registry.node? id = some node) (haxis : node.argument.isAxis = true) :
    coordinateOr a.args[i]? = c := by
  obtain ⟨id', node', word, m, hid', hnode', hword, -, haccept⟩ := h
  obtain rfl := Option.some.inj (hid.symm.trans hid')
  obtain rfl := Option.some.inj (hnode.symm.trans hnode')
  rw [Argument.accept_of_isAxis haxis, Prod.mk.injEq] at haccept
  obtain ⟨c', hread, heq⟩ := Option.map_eq_some_iff.mp haccept.1
  cases heq
  rw [hword, coordinateOr, Option.bind_some, hread, Option.getD_some]

/-- After a node without a handler on the path of an approach comes its only child. -/
theorem Approaches.next_eq (ha : d.Approaches who text s a) {i : Nat} {x y : NodeId} {node : Node H}
    (hx : a.taken[i]? = some x) (hnode : d.registry.node? x = some node)
    (hchildren : node.children = [y]) (hhandler : node.handler = none) :
    a.taken[i + 1]? = some y := by
  obtain ⟨rest, t, hdescent⟩ := ha.descent_taken
  obtain ⟨hdeepest, -, -⟩ := Registry.deepestHandler?_eq_some ha.deepest
  have hlast : x ≠ a.node := by
    rintro rfl
    rw [Registry.handler?, hnode, Option.bind_some, hhandler] at hdeepest
    cases hdeepest
  obtain ⟨y', hy', hnext⟩ := hdescent.exists_child hx hlast
  rw [Registry.children_eq hnode, hchildren, List.mem_singleton] at hy'
  rw [hnext, hy']

/-- **A first axis on the path is followed by the other two axes** if locations are whole. -/
theorem Approaches.exists_axes (hw : d.registry.Whole) (ha : d.Approaches who text s a) {i : Nat}
    {x : NodeId} {node : Node H} (hx : a.taken[i]? = some x)
    (hnode : d.registry.node? x = some node) (hfirst : node.argument.isFirstAxis = true) :
    ∃ y z, d.registry.Triple node.argument.name x y z ∧ a.taken[i + 1]? = some y ∧
      a.taken[i + 2]? = some z := by
  obtain ⟨y, z, htriple⟩ := hw hnode hfirst
  obtain ⟨nx, hnx, -, hchildren, hhandler⟩ := htriple.first
  obtain ⟨ny, hny, -, -, hchildren', hhandler'⟩ := htriple.second
  have hy := ha.next_eq hx hnx hchildren hhandler
  exact ⟨y, z, htriple, hy, ha.next_eq hy hny hchildren' hhandler'⟩

/-- A first axis on the path is read as the place that the coordinates of its triple stand for. -/
theorem Approaches.exists_place (hw : d.registry.Whole) (ha : d.Approaches who text s a) {i : Nat}
    {x : NodeId} {node : Node H} (hx : a.taken[i]? = some x)
    (hnode : d.registry.node? x = some node) (hfirst : node.argument.isFirstAxis = true) :
    ∃ cx cy cz, d.TookAxis who a i cx ∧ d.TookAxis who a (i + 1) cy ∧
      d.TookAxis who a (i + 2) cz ∧ ∀ m, d.registry.readIn who a.taken a.args i m =
        some (.location (locate cx cy cz (H.position m who) (H.view m who))) := by
  obtain ⟨y, z, htriple, hy, hz⟩ := ha.exists_axes hw hx hnode hfirst
  have haxis : node.argument.isAxis = true := (Bool.and_eq_true_iff.mp hfirst).1
  obtain ⟨ny, hny, hargy, -⟩ := htriple.second
  obtain ⟨nz, hnz, hargz, -⟩ := htriple.third
  have hyaxis : ny.argument.isAxis = true := by rw [hargy]; rfl
  have hzaxis : nz.argument.isAxis = true := by rw [hargz]; rfl
  obtain ⟨cx, hcx⟩ := ha.exists_tookAxis hx hnode haxis
  obtain ⟨cy, hcy⟩ := ha.exists_tookAxis hy hny hyaxis
  obtain ⟨cz, hcz⟩ := ha.exists_tookAxis hz hnz hzaxis
  refine ⟨cx, cy, cz, hcx, hcy, hcz, fun m => ?_⟩
  rw [Registry.readIn, hx, Option.bind_some, hnode, Option.bind_some, Node.reads, if_pos haxis,
    locationOf]
  simp only [List.getElem?_drop, Nat.add_zero, hcx.coordinateOr_eq hx hnode haxis,
    hcy.coordinateOr_eq hy hny hyaxis, hcz.coordinateOr_eq hz hnz hzaxis]

/-! ### Words and values -/

/-- The words are shared out among the values of an approach. -/
structure Apportioned (d : Dispatcher H) (who : H.Who) (a : Approach H) : Prop where
  /-- No word is read for two values, nor twice for one. -/
  nodup : (d.registry.consulted a.taken).Nodup
  /-- All words that are read were taken by the path to the handler. -/
  within : ∀ j ∈ d.registry.consulted a.taken, j < a.taken.length
  /-- Whatever the state of the host, a value comes from the words that are read for it. -/
  own : ∀ i ∈ d.registry.bearing a.taken, ∀ words : List String,
    (∀ j ∈ d.registry.span a.taken i, words[j]? = a.args[j]?) →
    ∀ m, d.registry.readIn who a.taken words i m = d.registry.readIn who a.taken a.args i m
  /-- Other words are of no account, be they any and however many. -/
  unread : ∀ words : List String, a.taken.length ≤ words.length →
    (∀ j ∈ d.registry.consulted a.taken, words[j]? = a.args[j]?) →
    d.registry.extract who a.taken words a.host = d.registry.extract who a.taken a.args a.host

/-- The words that are read for a contributing position are its own and, if it is a first axis, the
two after it, which belong to nodes that do not contribute. -/
theorem Approaches.span_cases (hw : d.registry.Whole) (ha : d.Approaches who text s a) {i : Nat}
    (hi : i ∈ d.registry.bearing a.taken) :
    d.registry.span a.taken i = [i] ∨
      d.registry.span a.taken i = [i, i + 1, i + 2] ∧ i + 2 < a.taken.length ∧
        i + 1 ∉ d.registry.bearing a.taken ∧ i + 2 ∉ d.registry.bearing a.taken := by
  obtain ⟨id, node, kind, hid, hnode, hkind, -⟩ := Registry.exists_of_mem_bearing hi
  rw [Registry.span, hid, Option.bind_some, hnode, Option.any_some]
  cases haxis : node.argument.isAxis with
  | false => exact .inl (if_neg Bool.false_ne_true)
  | true =>
    have hfirst : node.argument.isFirstAxis = true := by
      rw [Argument.isFirstAxis_eq haxis, hkind]
      rfl
    obtain ⟨y, z, htriple, hy, hz⟩ := ha.exists_axes hw hid hnode hfirst
    obtain ⟨ny, hny, hargy, -⟩ := htriple.second
    obtain ⟨nz, hnz, hargz, -⟩ := htriple.third
    -- The marks on their names keep the other two axes from contributing.
    have hnone : ∀ {k : Nat} {j : NodeId} {n : Node H}, a.taken[k]? = some j →
        d.registry.node? j = some n → n.argument.isTrailing = true →
        k ∉ d.registry.bearing a.taken := by
      intro k j n hj hn htrailing hk
      obtain ⟨j', n', kind', hj', hn', hkind', -⟩ := Registry.exists_of_mem_bearing hk
      obtain rfl := Option.some.inj (hj.symm.trans hj')
      obtain rfl := Option.some.inj (hn.symm.trans hn')
      rw [Argument.valueKind?, if_pos htrailing] at hkind'
      cases hkind'
    refine .inr ⟨if_pos rfl, (List.getElem?_eq_some_iff.mp hz).1, hnone hy hny ?_,
      hnone hz hnz ?_⟩
    · rw [hargy]
      exact isTrailingName_append _ (by decide)
    · rw [hargz]
      exact isTrailingName_append _ (by decide)

/-- Of the words only those that are consulted matter to an approach. -/
theorem Approaches.extract_congr (hr : d.registry.Reachable) (ha : d.Approaches who text s a)
    {words : List String} (hlen : a.taken.length ≤ words.length)
    (h : ∀ j ∈ d.registry.consulted a.taken, words[j]? = a.args[j]?) :
    d.registry.extract who a.taken words a.host =
      d.registry.extract who a.taken a.args a.host := by
  have hreadings : d.registry.readings who a.taken words a.host =
      d.registry.readings who a.taken a.args a.host :=
    Registry.readings_congr a.host (ha.exists_node? hr) hlen ha.length_taken_le h
  rw [Registry.extract, Registry.extract, hreadings]

/-- **The values of an approach share no word** if locations are whole. -/
theorem Approaches.apportioned (hr : d.registry.Reachable) (hw : d.registry.Whole)
    (ha : d.Approaches who text s a) : d.Apportioned who a := by
  have hpositions : (d.registry.bearing a.taken).Pairwise (· < ·) :=
    List.pairwise_lt_range.filter _
  have hbounds : ∀ i ∈ d.registry.bearing a.taken, i < a.taken.length := fun i hi =>
    List.mem_range.mp (List.mem_filter.mp hi).1
  have hwithin : ∀ j ∈ d.registry.consulted a.taken, j < a.taken.length := by
    intro j hj
    obtain ⟨i, hi, hj⟩ := List.mem_flatMap.mp hj
    rcases ha.span_cases hw hi with hspan | ⟨hspan, hlt, -, -⟩
    · rw [hspan, List.mem_singleton] at hj
      exact hj ▸ hbounds i hi
    · rw [hspan] at hj
      simp only [List.mem_cons, List.not_mem_nil, or_false] at hj
      omega
  refine ⟨List.nodup_flatMap.mpr ⟨fun i hi => ?_, ?_⟩, hwithin,
    fun i _ words h m => Registry.readIn_congr h m, fun words => ha.extract_congr hr⟩
  · rcases ha.span_cases hw hi with hspan | ⟨hspan, -⟩ <;> simp [hspan]
  · refine hpositions.imp_of_mem fun {i k} hi hk hlt j hji hjk => ?_
    -- The words of the later value begin at its position, which is not among those of the first.
    have hge : k ≤ j := by
      rcases ha.span_cases hw hk with hspan | ⟨hspan, -⟩ <;> simp [hspan] at hjk <;> omega
    rcases ha.span_cases hw hi with hspan | ⟨hspan, -, hsecond, hthird⟩
    · rw [hspan, List.mem_singleton] at hji
      omega
    · have hk₁ : k ≠ i + 1 := fun h => hsecond (h ▸ hk)
      have hk₂ : k ≠ i + 2 := fun h => hthird (h ▸ hk)
      simp only [hspan, List.mem_cons, List.not_mem_nil, or_false] at hji
      omega

/-- The reading of a contributing position is among the values that are supplied. -/
theorem Supplied.exists_value {e : Entry H} (h : d.Supplied who a e) {i : Nat}
    (hi : i ∈ d.registry.bearing a.taken) {v : Value H.Who}
    (hv : d.registry.readingAt who a.taken a.args a.host i = some v) :
    ∃ k : Nat, (d.registry.bearing a.taken)[k]? = some i ∧ e.values[k]? = some v := by
  obtain ⟨k, hk⟩ := List.mem_iff_getElem?.mp hi
  have hvalues : (e.values.map some)[k]? = some (some v) := by
    rw [h.values, List.getElem?_map, hk, Option.map_some, hv]
  rw [List.getElem?_map, Option.map_eq_some_iff] at hvalues
  obtain ⟨w, hw, heq⟩ := hvalues
  exact ⟨k, hk, by rw [hw, heq]⟩

/-- **A handler that is entered is given, for each first axis of its path, the place of the
coordinates that its own three axes took, and no word is read for two of its values**, if every
step has left locations whole. -/
theorem place_of_axes {steps : List (BuildStep H)} (hd : d.registry = .ofSteps steps)
    (hsparing : (Registry.empty : Registry H).sparing steps = true) {e : Entry H}
    (he : (d.dispatch who text s).entry = some e) :
    ∃ a, d.Approaches who text s a ∧ d.Supplied who a e ∧ d.Apportioned who a ∧
      ∀ (i : Nat) (x : NodeId) (node : Node H), a.taken[i]? = some x →
        d.registry.node? x = some node → node.argument.isFirstAxis = true →
        ∃ y z cx cy cz, d.registry.Triple node.argument.name x y z ∧
          a.taken[i + 1]? = some y ∧ a.taken[i + 2]? = some z ∧
          d.TookAxis who a i cx ∧ d.TookAxis who a (i + 1) cy ∧ d.TookAxis who a (i + 2) cz ∧
          ∃ k : Nat, (d.registry.bearing a.taken)[k]? = some i ∧
            let m := d.registry.stateAt who a.taken a.args a.host i
            e.values[k]? =
              some (.location (locate cx cy cz (H.position m who) (H.view m who))) := by
  have hr : d.registry.Reachable := ⟨steps, hd⟩
  have hw : d.registry.Whole := hd ▸ Registry.ofSteps_whole hsparing
  obtain ⟨a, ha, -, hk, rfl⟩ := entry_eq_some he
  have hsupplied := ha.supplied hr hk
  refine ⟨a, ha, hsupplied, ha.apportioned hr hw, fun i x node hx hnode hfirst => ?_⟩
  obtain ⟨y, z, htriple, hy, hz⟩ := ha.exists_axes hw hx hnode hfirst
  obtain ⟨cx, cy, cz, hcx, hcy, hcz, hread⟩ := ha.exists_place hw hx hnode hfirst
  have hi : i ∈ d.registry.bearing a.taken := by
    refine Registry.mem_bearing hx hnode ?_
    rw [← Argument.isFirstAxis_eq (Bool.and_eq_true_iff.mp hfirst).1, hfirst]
  have hreading := hread (d.registry.stateAt who a.taken a.args a.host i)
  rw [← Registry.readingAt_eq_readIn] at hreading
  exact ⟨y, z, cx, cy, cz, htriple, hy, hz, hcx, hcy, hcz, hsupplied.exists_value hi hreading⟩

/-- An operator goes to a place and faces another: of the eight words seven are read, three for each
place, and the keyword between them is read for none. -/
theorem place_of_axes_facing :
    let d : Dispatcher (Cast.host Unit) :=
      ⟨.ofSteps [.teleport], "-", fun _ _ _ s => ⟨.done, 3, s⟩, fun _ _ => none⟩
    let s : Session (Cast.host Unit) :=
      .start ⟨[⟨"ann", true, [true], .origin, .origin, true, none, []⟩]⟩
    (Registry.empty : Registry (Cast.host Unit)).sparing [.teleport] = true ∧
      ∃ e a, (d.dispatch (some "ann") "-tp ~ ~ ^ facing ~ ^ ~ true" s).entry = some e ∧
        e.handler.params = [.location, .location, .boolean] ∧ d.Apportioned (some "ann") a ∧
        d.registry.consulted a.taken = [0, 1, 2, 4, 5, 6, 7] ∧
        ∃ cx cy cz m, d.TookAxis (some "ann") a 4 cx ∧ d.TookAxis (some "ann") a 5 cy ∧
          d.TookAxis (some "ann") a 6 cz ∧ e.values[1]? =
            some (.location (locate cx cy cz ((Cast.host Unit).position m (some "ann"))
              ((Cast.host Unit).view m (some "ann")))) := by
  intro d s
  have hsparing : (Registry.empty : Registry (Cast.host Unit)).sparing [.teleport] = true := by
    simp [Registry.sparing, BuildStep.spares]
  have hentered : (d.dispatch (some "ann") "-tp ~ ~ ^ facing ~ ^ ~ true" s).entry.map
      (fun e => (e.node, e.handler.params)) = some (15, [.location, .location, .boolean]) := by
    decide +kernel
  obtain ⟨e, he, heq⟩ := Option.map_eq_some_iff.mp hentered
  obtain ⟨hnode, hparams⟩ := Prod.mk.inj heq
  obtain ⟨a, -, hsupplied, hapart, hplaces⟩ := place_of_axes rfl hsparing he
  -- The words have led to the node past the second place, which begins at the node 12.
  have hsurvey : d.registry.path 15 = 0 :: [2, 3, 4, 9, 12, 13, 14, 15] ∧
      d.registry.bearing [2, 3, 4, 9, 12, 13, 14, 15] = [0, 4, 7] ∧
      d.registry.consulted [2, 3, 4, 9, 12, 13, 14, 15] = [0, 1, 2, 4, 5, 6, 7] ∧
      (d.registry.node? 12).map (·.argument.isFirstAxis) = some true := by
    decide +kernel
  obtain ⟨hpath, hbearing, hconsulted, hfirst⟩ := hsurvey
  have htaken : a.taken = [2, 3, 4, 9, 12, 13, 14, 15] := by
    have h := hsupplied.path
    rw [hnode, hpath] at h
    exact (List.cons.inj h).2.symm
  rw [← htaken] at hbearing hconsulted
  obtain ⟨node, hnode, hfirst⟩ := Option.map_eq_some_iff.mp hfirst
  obtain ⟨y, z, cx, cy, cz, -, -, -, hx, hy, hz, k, hk, hvalue⟩ :=
    hplaces 4 12 node (by rw [htaken]; rfl) hnode hfirst
  obtain rfl : k = 1 := by
    rw [hbearing] at hk
    rcases k with _ | _ | _ | k <;> simp at hk ⊢
  exact ⟨hsparing, e, a, he, hparams, hapart, hconsulted, cx, cy, cz, _, hx, hy, hz, hvalue⟩

end Dispatcher

end CommandTree
