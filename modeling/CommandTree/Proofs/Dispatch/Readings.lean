import CommandTree.Dispatch
import CommandTree.Proofs.Argument
import CommandTree.Proofs.Registry.Schema
import CommandTree.Proofs.Resolve.Descent

/-!
# Readings

Between the walk and the handler the words along the path are converted to values.
The nodes that contribute are visited in order, and each is read in the state that
the ones before it have left.  There is one reading for each of them, and it may be
none; the values are the readings that are some.  Hence there are as many values as
contributing nodes only if no reading failed, and then the values are the readings
in order: a handler that gets as many values as it takes gets the right ones.

## Main definitions

* `Registry.bearing` — the positions on a path whose nodes contribute a value.
* `Registry.readingAt` — what the node at a position of a path is read as.

## Main results

* `readings_eq` — one reading for each contributing node, in order.
* `extract_eq` — the values are the readings that are some.
* `extract_eq_of_length` — as many values as contributing nodes are their readings.
* `firstMismatch?_eq_none_iff` — when a handler gets values of the kinds it takes.
-/

namespace CommandTree

variable {H : Host}

/-! ### The reading of one node -/

/-- What a node makes of `words`, the words from its own on: an axis a place, another node the
value of its own word. -/
def Node.reads (node : Node H) (commands : List String) (who : H.Who) (words : List String)
    (s : H.State) : Option (Value H.Who) :=
  if node.argument.isAxis then some (.location (locationOf who words s))
  else words.head?.bind fun word => (node.argument.accept commands word s).1

/-- The state of the host after a node was read.  Only nodes that contribute a value are, and an
axis looks at nobody but the player. -/
def Node.stateAfter (node : Node H) (commands : List String) (word : String) (s : H.State) :
    H.State :=
  if node.argument.valueKind?.isNone || node.argument.isAxis then s
  else (node.argument.accept commands word s).2

namespace Registry

variable {r : Registry H} {who : H.Who}

/-- The positions on a path whose nodes contribute a value. -/
def bearing (r : Registry H) (path : List NodeId) : List Nat :=
  (List.range path.length).filter fun i => (path[i]?.bind r.valueKind?).isSome

/-- The state in which the node at a position of a path is read: the nodes before it have been. -/
def stateAt (r : Registry H) (who : H.Who) (path : List NodeId) (words : List String)
    (s : H.State) (i : Nat) : H.State :=
  (r.readings who (path.take i) words s).2

/-- What the node at a position of a path is read as, from the words from its own on. -/
def readingAt (r : Registry H) (who : H.Who) (path : List NodeId) (words : List String)
    (s : H.State) (i : Nat) : Option (Value H.Who) :=
  (path[i]?.bind r.node?).bind fun node =>
    node.reads r.commandNames who (words.drop i) (r.stateAt who path words s i)

/-! ### All readings of a path -/

variable {id : NodeId} {node : Node H}

/-- The readings of a path begin with that of its first node, if that contributes, and go on in
the state it leaves. -/
theorem readings_cons (h : r.node? id = some node) (path : List NodeId) (word : String)
    (words : List String) (s : H.State) :
    r.readings who (id :: path) (word :: words) s =
      let rest := r.readings who path words (node.stateAfter r.commandNames word s)
      ((if (r.valueKind? id).isSome then [node.reads r.commandNames who (word :: words) s]
        else []) ++ rest.1, rest.2) := by
  simp only [readings, h, valueKind?_eq h, Node.reads, Node.stateAfter, List.head?_cons,
    Option.bind_some]
  cases hkind : node.argument.valueKind? with
  | none => simp
  | some kind => cases hax : node.argument.isAxis <;> simp

/-- Reading a node does nothing to the host but ask for a word. -/
theorem stateAfter_asked (h : r.node? id = some node) (word : String) (s : H.State) :
    r.Asked s (node.stateAfter r.commandNames word s) := by
  rw [Node.stateAfter]
  split
  · exact .refl
  · exact asked_accept h word s

/-- Nor does reading a path. -/
theorem readings_asked : ∀ (path : List NodeId) (words : List String) (s : H.State),
    r.Asked s (r.readings who path words s).2
  | [], words, s => by cases words <;> exact .refl
  | _ :: _, [], s => .refl
  | id :: path, word :: words, s => by
    cases h : r.node? id with
    | none =>
      rw [readings]
      simp only [h]
      exact readings_asked path words s
    | some node =>
      rw [readings_cons h]
      exact (stateAfter_asked h word s).trans (readings_asked path words _)

theorem bearing_cons (r : Registry H) (id : NodeId) (path : List NodeId) :
    r.bearing (id :: path) =
      (if (r.valueKind? id).isSome then [0] else []) ++ (r.bearing path).map Nat.succ := by
  rw [bearing, List.length_cons, List.range_succ_eq_map, List.filter_cons, List.filter_map]
  have htail : ((fun i => ((id :: path)[i]?.bind r.valueKind?).isSome) ∘ Nat.succ) =
      fun i => (path[i]?.bind r.valueKind?).isSome := by
    funext i
    simp
  rw [htail, List.getElem?_cons_zero, Option.bind_some]
  split <;> rfl

theorem stateAt_succ (h : r.node? id = some node) (path : List NodeId) (word : String)
    (words : List String) (s : H.State) (i : Nat) :
    r.stateAt who (id :: path) (word :: words) s (i + 1) =
      r.stateAt who path words (node.stateAfter r.commandNames word s) i := by
  rw [stateAt, List.take_succ_cons, readings_cons h]
  rfl

theorem readingAt_zero (h : r.node? id = some node) (path : List NodeId) (words : List String)
    (s : H.State) :
    r.readingAt who (id :: path) words s 0 = node.reads r.commandNames who words s := by
  simp only [readingAt, List.getElem?_cons_zero, Option.bind_some, h, List.drop_zero, stateAt,
    List.take_zero]
  cases words <;> rfl

theorem readingAt_succ (h : r.node? id = some node) (path : List NodeId) (word : String)
    (words : List String) (s : H.State) (i : Nat) :
    r.readingAt who (id :: path) (word :: words) s (i + 1) =
      r.readingAt who path words (node.stateAfter r.commandNames word s) i := by
  simp only [readingAt, List.getElem?_cons_succ, List.drop_succ_cons, stateAt_succ h]

/-- **There is one reading for each contributing node, in order.** -/
theorem readings_eq : ∀ {path : List NodeId} {words : List String} (s : H.State),
    (∀ id ∈ path, ∃ node, r.node? id = some node) → path.length ≤ words.length →
    (r.readings who path words s).1 = (r.bearing path).map (r.readingAt who path words s)
  | [], words, s, _, _ => by cases words <;> rfl
  | _ :: _, [], _, _, hlen => absurd hlen (by simp)
  | id :: path, word :: words, s, hnodes, hlen => by
    obtain ⟨node, h⟩ := hnodes id List.mem_cons_self
    -- Positions in the rest of the path are one less than positions in the path.
    have hrest := readings_eq (node.stateAfter r.commandNames word s)
      (fun j hj => hnodes j (List.mem_cons_of_mem _ hj)) (Nat.le_of_succ_le_succ hlen)
    have hsucc : r.readingAt who (id :: path) (word :: words) s ∘ Nat.succ =
        r.readingAt who path words (node.stateAfter r.commandNames word s) :=
      funext (readingAt_succ h path word words s)
    rw [readings_cons h, bearing_cons, List.map_append, List.map_map, hsucc, ← hrest]
    split
    · simp only [List.map_cons, List.map_nil, readingAt_zero h]
    · rfl

/-- Position by position, a path contributes the kinds of its contributing nodes. -/
theorem filterMap_bearing (r : Registry H) : ∀ path : List NodeId,
    (r.bearing path).filterMap (fun i => path[i]?.bind r.valueKind?) = path.filterMap r.valueKind?
  | [] => rfl
  | id :: path => by
    rw [bearing_cons, List.filterMap_append, List.filterMap_map]
    have htail : ((fun i => (id :: path)[i]?.bind r.valueKind?) ∘ Nat.succ) =
        fun i => path[i]?.bind r.valueKind? := by
      funext i
      simp
    rw [htail, filterMap_bearing r path]
    cases h : r.valueKind? id with
    | none => simp [h]
    | some kind => simp [h]

/-- The node at a contributing position, with the kind of value it contributes. -/
theorem exists_of_mem_bearing {path : List NodeId} {i : Nat} (h : i ∈ r.bearing path) :
    ∃ id node kind, path[i]? = some id ∧ r.node? id = some node ∧
      node.argument.valueKind? = some kind ∧ r.valueKind? id = some kind := by
  obtain ⟨kind, hkind⟩ := Option.isSome_iff_exists.mp (List.mem_filter.mp h).2
  obtain ⟨id, hid, hvalue⟩ := Option.bind_eq_some_iff.mp hkind
  obtain ⟨node, hnode, hk⟩ := Option.bind_eq_some_iff.mp hvalue
  exact ⟨id, node, kind, hid, hnode, hk, hvalue⟩

/-- A node that contributes is at a contributing position. -/
theorem mem_bearing {path : List NodeId} {i : Nat} (hid : path[i]? = some id)
    (hnode : r.node? id = some node) (hkind : node.argument.valueKind?.isSome = true) :
    i ∈ r.bearing path := by
  refine List.mem_filter.mpr ⟨List.mem_range.mpr (List.getElem?_eq_some_iff.mp hid).1, ?_⟩
  rw [hid, Option.bind_some, valueKind?_eq hnode, hkind]

/-- There are as many contributing positions as kinds. -/
theorem length_bearing (r : Registry H) (path : List NodeId) :
    (r.bearing path).length = (path.filterMap r.valueKind?).length := by
  rw [← filterMap_bearing, eq_comm, List.filterMap_length_eq_length]
  intro i hi
  obtain ⟨id, -, kind, hid, -, -, hkind⟩ := exists_of_mem_bearing hi
  rw [hid, Option.bind_some, hkind]
  rfl

/-! ### Values -/

/-- The values are the readings that are some. -/
theorem extract_eq {path : List NodeId} {words : List String} {s : H.State}
    (hnodes : ∀ id ∈ path, ∃ node, r.node? id = some node) (hlen : path.length ≤ words.length) :
    (r.extract who path words s).1 =
      (r.bearing path).filterMap (r.readingAt who path words s) := by
  have hextract : (r.extract who path words s).1 =
    (r.readings who path words s).1.filterMap id := rfl
  rw [hextract, readings_eq s hnodes hlen, List.filterMap_map, Function.id_comp]

/-- **As many values as contributing nodes are their readings**, none of which failed. -/
theorem extract_eq_of_length {path : List NodeId} {words : List String} {s : H.State}
    (hnodes : ∀ id ∈ path, ∃ node, r.node? id = some node) (hlen : path.length ≤ words.length)
    (hcount : (path.filterMap r.valueKind?).length ≤ (r.extract who path words s).1.length) :
    (r.extract who path words s).1.map some =
      (r.bearing path).map (r.readingAt who path words s) := by
  rw [extract_eq hnodes hlen] at hcount ⊢
  -- A reading that failed would leave fewer values than contributing nodes.
  have hall : ∀ i ∈ r.bearing path, (r.readingAt who path words s i).isSome := by
    refine List.filterMap_length_eq_length.mp (Nat.le_antisymm (List.length_filterMap_le _ _) ?_)
    rwa [length_bearing]
  rw [List.map_filterMap_some_eq_filter_map_isSome]
  refine List.filter_eq_self.mpr fun reading hreading => ?_
  obtain ⟨i, hi, rfl⟩ := List.mem_map.mp hreading
  exact hall i hi

/-- A failed reading leaves fewer values than there are contributing nodes. -/
theorem length_extract_lt {path : List NodeId} {words : List String} {s : H.State}
    (hnodes : ∀ id ∈ path, ∃ node, r.node? id = some node) (hlen : path.length ≤ words.length)
    {i : Nat} (hi : i ∈ r.bearing path) (hnone : r.readingAt who path words s i = none) :
    (r.extract who path words s).1.length < (path.filterMap r.valueKind?).length := by
  by_contra hcount
  have hvalues : (r.extract who path words s).1.map some = _ :=
    extract_eq_of_length hnodes hlen (Nat.le_of_not_lt hcount)
  have hmem : none ∈ (r.extract who path words s).1.map some := by
    rw [hvalues, ← hnone]
    exact List.mem_map_of_mem hi
  simp at hmem

end Registry

/-! ### Handlers and their values -/

/-- **A handler gets values of the kinds it takes just if there are enough and each converts.** -/
theorem firstMismatch?_eq_none_iff {W : Host} : ∀ {kinds : List ValueKind}
    {values : List (Value W.Who)}, firstMismatch? kinds values = none ↔
      kinds.length ≤ values.length ∧ ∀ pair ∈ kinds.zip values, pair.2.converts pair.1 = true
  | [], values => by simp [firstMismatch?]
  | kind :: kinds, [] => by simp [firstMismatch?]
  | kind :: kinds, value :: values => by
    rw [firstMismatch?]
    by_cases hc : value.converts kind = true
    · simp [hc, firstMismatch?_eq_none_iff]
    · simp [hc]

/-- The values a handler is called with are of the kinds it takes. -/
theorem kinds_take_of_firstMismatch?_eq_none {W : Host} : ∀ {kinds : List ValueKind}
    {values : List (Value W.Who)}, firstMismatch? kinds values = none →
    (values.take kinds.length).map Value.kind = kinds
  | [], _, _ => rfl
  | kind :: kinds, [], h => by simp [firstMismatch?] at h
  | kind :: kinds, value :: values, h => by
    rw [firstMismatch?] at h
    split at h
    · next hc =>
      rw [List.length_cons, List.take_succ_cons, List.map_cons, (Value.converts_iff.mp hc).1,
        kinds_take_of_firstMismatch?_eq_none h]
    · cases h

/-- Values of just the kinds a handler takes, none of which is an unresolved axis, suit it. -/
theorem firstMismatch?_kinds {W : Host} : ∀ {values : List (Value W.Who)},
    (∀ v ∈ values, ∀ c, v ≠ .coordinate c) → firstMismatch? (values.map Value.kind) values = none
  | [], _ => rfl
  | v :: values, h => by
    have hv : v.converts v.kind = true := Value.converts_iff.mpr ⟨rfl, h v List.mem_cons_self⟩
    rw [List.map_cons, firstMismatch?, if_pos hv]
    exact firstMismatch?_kinds fun w hw => h w (List.mem_cons_of_mem _ hw)

end CommandTree
