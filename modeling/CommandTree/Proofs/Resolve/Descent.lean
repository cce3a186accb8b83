import CommandTree.Proofs.Registry.Shape
import CommandTree.Resolve

/-!
# Descents

A walk down the tree is a descent that ends well or not.  A descent gives each word
to the first child that takes it, and every child it goes to may be used by the
player at that moment.  What the walk answers depends only on where the descent
cannot go on, and why.

## Main definitions

* `Registry.Asked` — the states of the host that questions to nodes lead to.
* `Registry.Descent` — a descent from a node, with the words that are left over.
* `Registry.AskedDuring` — the states in which a walk asks nodes for words.
* `Registry.Stops`, `Registry.Ends` — a node where a walk may end well, and one where it ends.

## Main results

* `walk_eq_iff` — a walk answers what the end of its descent says.
* `walk_eq_ok` — a walk that ends well is a descent to a node where it may end.
* `Descent.path_eq` — the nodes of a descent are the path to its last one.
* `Descent.exists_askedDuring` — each of them has taken its own word, and may be used.
-/

namespace CommandTree

variable {H : Host}

namespace Registry

variable {r : Registry H} {who : H.Who}

/-! ### Questions to nodes -/

/-- The state `t` comes about from `s` when nodes are asked for words, any of them any number of
times. -/
inductive Asked (r : Registry H) (s : H.State) : H.State → Prop
  /-- No question. -/
  | refl : Asked r s s
  /-- One more question. -/
  | ask {t : H.State} (id : NodeId) (word : String) (h : Asked r s t) :
    Asked r s (r.accepts id word t).2

theorem Asked.trans {s t u : H.State} (hst : r.Asked s t) (htu : r.Asked t u) : r.Asked s u := by
  induction htu with
  | refl => exact hst
  | ask id word _ ih => exact .ask id word ih

/-- A node that is there answers with what its argument makes of the word. -/
theorem accepts_eq {id : NodeId} {node : Node H} (h : r.node? id = some node) (word : String)
    (s : H.State) : r.accepts id word s =
      ((node.argument.accept r.commandNames word s).1.isSome,
        (node.argument.accept r.commandNames word s).2) := by
  rw [accepts, h]

theorem asked_accept {id : NodeId} {node : Node H} (h : r.node? id = some node) (word : String)
    (s : H.State) : r.Asked s (node.argument.accept r.commandNames word s).2 := by
  have hask := Asked.ask (r := r) (s := s) id word .refl
  rwa [accepts_eq h] at hask

theorem firstAccepting_asked (word : String) : ∀ (ids : List NodeId) (s : H.State),
    r.Asked s (r.firstAccepting word ids s).2
  | [], _ => .refl
  | id :: ids, s => by
    have hask : r.Asked s (r.accepts id word s).2 := .ask id word .refl
    rw [firstAccepting]
    split
    · next h => rw [h] at hask; exact hask
    · next h => rw [h] at hask; exact hask.trans (firstAccepting_asked word ids _)

/-- A walk does nothing to the host but ask nodes for words. -/
theorem walk_asked : ∀ (words : List String) (id : NodeId) (s : H.State),
    r.Asked s (r.walk who id words s).2
  | [], id, s => by
    rw [walk]
    split <;> exact .refl
  | word :: words, id, s => by
    have hask := firstAccepting_asked (r := r) word (r.children id) s
    rw [walk]
    split
    · exact .refl
    · split
      · next h => rw [h] at hask; split <;> exact hask
      · next child s' h =>
        rw [h] at hask
        split
        · -- The walk goes on from the child, in the state that its siblings were asked in.
          have hrest := hask.trans (walk_asked words child s')
          split <;> next hw => rw [hw] at hrest; exact hrest
        · exact hask

/-- The child that a word goes to is one of those asked. -/
theorem firstAccepting_mem {word : String} {child : NodeId} : ∀ {ids : List NodeId}
    {s t : H.State}, r.firstAccepting word ids s = (some child, t) → child ∈ ids
  | [], _, _, h => by simp [firstAccepting] at h
  | id :: ids, s, t, h => by
    rw [firstAccepting] at h
    split at h
    · next hid =>
      simp only [Prod.mk.injEq, Option.some.injEq] at h
      exact h.1 ▸ List.mem_cons_self
    · exact List.mem_cons_of_mem _ (firstAccepting_mem h)

/-! ### Descents -/

/-- From the node `id` the first of `words` lead along `path` to the node `last`, where `rest` is
left of them: each word goes to the first child that takes it, and the player may use that child
in the state in which it has just taken the word. -/
inductive Descent (r : Registry H) (who : H.Who) :
    NodeId → List String → H.State → List NodeId → NodeId → List String → H.State → Prop
  /-- No word is placed. -/
  | stay (id : NodeId) (words : List String) (s : H.State) : Descent r who id words s [] id words s
  /-- The first word is placed, and the descent goes on from the child it went to. -/
  | step {id child last : NodeId} {word : String} {words rest : List String}
    {path : List NodeId} {s s' t : H.State}
    (htake : r.firstAccepting word (r.children id) s = (some child, s'))
    (hpermit : r.permits s' who child = true)
    (hrest : Descent r who child words s' path last rest t) :
    Descent r who id (word :: words) s (child :: path) last rest t

variable {id last : NodeId} {words rest : List String} {path : List NodeId} {s t : H.State}

theorem Descent.last_eq (h : r.Descent who id words s path last rest t) :
    last = path.getLastD id := by
  induction h with
  | stay => rfl
  | step _ _ _ ih => rw [ih, List.getLastD_cons]

/-- A descent places one word for each node. -/
theorem Descent.words_eq (h : r.Descent who id words s path last rest t) :
    ∃ placed, words = placed ++ rest ∧ placed.length = path.length := by
  induction h with
  | stay => exact ⟨[], rfl, rfl⟩
  | @step _ _ _ word _ _ _ _ _ _ _ _ _ ih =>
    obtain ⟨placed, rfl, hlen⟩ := ih
    exact ⟨word :: placed, rfl, by simp [hlen]⟩

theorem Descent.length_le (h : r.Descent who id words s path last rest t) :
    path.length ≤ words.length := by
  obtain ⟨placed, rfl, hlen⟩ := h.words_eq
  rw [List.length_append, hlen]
  exact Nat.le_add_right _ _

/-- A child is a node whose parent it is the child of. -/
theorem node?_of_mem_children (hr : r.WellFormed) {child : NodeId} (h : child ∈ r.children id) :
    ∃ node, r.node? child = some node ∧ node.parent = some id := by
  unfold children at h
  cases hid : r.node? id with
  | none => rw [hid] at h; cases h
  | some node =>
    rw [hid] at h
    exact (hr.mem_children hid child).mp h

/-- The path to a child goes on from the path to its parent. -/
theorem path_of_mem_children (hr : r.WellFormed) {child : NodeId} (h : child ∈ r.children id) :
    r.path child = r.path id ++ [child] := by
  obtain ⟨node, hnode, hparent⟩ := node?_of_mem_children hr h
  exact path_child hr hnode hparent

/-- **The nodes of a descent are the path to its last one**, below the path to the node it
began at. -/
theorem Descent.path_eq (hr : r.WellFormed) (h : r.Descent who id words s path last rest t) :
    r.path last = r.path id ++ path := by
  induction h with
  | stay => rw [List.append_nil]
  | step htake _ _ ih =>
    rw [ih, path_of_mem_children hr (firstAccepting_mem htake), List.append_assoc,
      List.singleton_append]

theorem Descent.exists_node? (hr : r.WellFormed) (h : r.Descent who id words s path last rest t) :
    ∀ j ∈ path, ∃ node, r.node? j = some node := by
  induction h with
  | stay => intro j hj; cases hj
  | step htake _ _ ih =>
    obtain ⟨node, hnode, -⟩ := node?_of_mem_children hr (firstAccepting_mem htake)
    intro j hj
    rcases List.mem_cons.mp hj with rfl | hj
    · exact ⟨node, hnode⟩
    · exact ih j hj

/-- A descent can be cut after any of its nodes. -/
theorem Descent.split : ∀ {above below : List NodeId} {id : NodeId} {words : List String}
    {s : H.State}, r.Descent who id words s (above ++ below) last rest t →
    ∃ mid between s', r.Descent who id words s above mid between s' ∧
      r.Descent who mid between s' below last rest t
  | [], _, id, words, s, h => ⟨id, words, s, .stay id words s, h⟩
  | _ :: _, _, _, _, _, .step htake hpermit hrest => by
    obtain ⟨mid, between, s', habove, hbelow⟩ := hrest.split
    exact ⟨mid, between, s', .step htake hpermit habove, hbelow⟩

/-! ### The states in which nodes are asked -/

/-- The states in which nodes are asked for a word, one after the other, until one takes it. -/
def askStates (r : Registry H) (word : String) : List NodeId → H.State → List H.State
  | [], _ => []
  | id :: ids, s =>
    s :: match r.accepts id word s with
      | (true, _) => []
      | (false, s') => r.askStates word ids s'

/-- A walk from the node `id` asks some node in the state `m`: it has come to a node whose children
are offered the next word. -/
def AskedDuring (r : Registry H) (who : H.Who) (id : NodeId) (words : List String) (s m : H.State) :
    Prop :=
  ∃ path last word rest t, r.Descent who id words s path last (word :: rest) t ∧
    m ∈ r.askStates word (r.children last) t

/-- The child that a word goes to takes it in one of the states in which children are asked. -/
theorem exists_askStates {word : String} {child : NodeId} : ∀ {ids : List NodeId} {s t : H.State},
    r.firstAccepting word ids s = (some child, t) →
    ∃ m ∈ r.askStates word ids s, r.accepts child word m = (true, t)
  | [], _, _, h => by simp [firstAccepting] at h
  | id :: ids, s, t, h => by
    rw [firstAccepting] at h
    rw [askStates]
    cases hid : r.accepts id word s with
    | mk taken u =>
      rw [hid] at h
      cases taken with
      | true =>
        simp only [Prod.mk.injEq, Option.some.injEq] at h
        obtain ⟨rfl, rfl⟩ := h
        exact ⟨s, List.mem_cons_self, hid⟩
      | false =>
        obtain ⟨m, hm, htake⟩ := exists_askStates h
        exact ⟨m, List.mem_cons_of_mem _ hm, htake⟩

theorem asked_of_mem_askStates {word : String} {m : H.State} : ∀ {ids : List NodeId}
    {s : H.State}, m ∈ r.askStates word ids s → r.Asked s m
  | [], _, h => nomatch h
  | id :: ids, s, h => by
    rw [askStates] at h
    rcases List.mem_cons.mp h with rfl | h
    · exact .refl
    · have hask : r.Asked s (r.accepts id word s).2 := .ask id word .refl
      cases hid : r.accepts id word s with
      | mk taken t =>
        rw [hid] at h hask
        cases taken with
        | true => exact nomatch h
        | false => exact hask.trans (asked_of_mem_askStates h)

/-- A descent does nothing to the host but ask nodes for words. -/
theorem Descent.asked (h : r.Descent who id words s path last rest t) : r.Asked s t := by
  induction h with
  | stay => exact .refl
  | @step id child _ word _ _ _ s _ _ htake _ _ ih =>
    have hask := firstAccepting_asked (r := r) word (r.children id) s
    rw [htake] at hask
    exact hask.trans ih

/-- So the states in which a walk asks nodes come about by such questions. -/
theorem AskedDuring.asked {m : H.State} (h : r.AskedDuring who id words s m) : r.Asked s m := by
  obtain ⟨path, last, word, rest, t, hdescent, hm⟩ := h
  exact hdescent.asked.trans (asked_of_mem_askStates hm)

/-- **Every node of a descent has taken its own word** when the walk asked it, and after that the
player may use it. -/
theorem Descent.exists_askedDuring (h : r.Descent who id words s path last rest t) :
    ∀ {i : Nat} {j : NodeId}, path[i]? = some j →
      ∃ word m m', words[i]? = some word ∧ r.AskedDuring who id words s m ∧
        r.accepts j word m = (true, m') ∧ r.permits m' who j = true := by
  induction h with
  | stay => intro i j hj; simp at hj
  | @step id child _ word words _ _ s s' _ htake hpermit _ ih =>
    intro i j hj
    cases i with
    | zero =>
      obtain ⟨m, hm, haccepts⟩ := exists_askStates htake
      rw [List.getElem?_cons_zero, Option.some.injEq] at hj
      subst hj
      exact ⟨word, m, s', rfl, ⟨[], id, word, words, s, .stay id _ s, hm⟩, haccepts, hpermit⟩
    | succ i =>
      -- The rest of the walk is a walk of its own, from the child.
      obtain ⟨word', m, m', hword, ⟨above, last, next, rest, u, hdescent, hm⟩, htaken⟩ := ih hj
      exact ⟨word', m, m', hword,
        ⟨child :: above, last, next, rest, u, .step htake hpermit hdescent, hm⟩, htaken⟩

/-! ### Walks -/

/-- A walk that has come to the node with `rest` left of the words may end there: the node has no
children, or it has a handler and the next word, if there is one, fits no child. -/
inductive Stops (r : Registry H) : NodeId → List String → H.State → H.State → Prop
  /-- There is nowhere to go. -/
  | leaf {id : NodeId} {rest : List String} {s : H.State} (h : r.children id = []) :
    Stops r id rest s s
  /-- The words are used up. -/
  | spent {id : NodeId} {s : H.State} (hh : r.hasHandler id = true) : Stops r id [] s s
  /-- The next word fits no child. -/
  | unfit {id : NodeId} {word : String} {rest : List String} {s t : H.State}
    (hh : r.hasHandler id = true) (h : r.firstAccepting word (r.children id) s = (none, t)) :
    Stops r id (word :: rest) s t

/-- How a walk ends that has come to the node with `rest` left of the words: well, which is told by
nothing, or halted. -/
inductive Ends (r : Registry H) (who : H.Who) :
    NodeId → List String → H.State → Option Halt → H.State → Prop
  /-- The walk may end here. -/
  | well {id : NodeId} {rest : List String} {s t : H.State} (h : Stops r id rest s t) :
    Ends r who id rest s none t
  /-- The next word goes to a child that the player may not use. -/
  | denied {id child : NodeId} {word : String} {rest : List String} {s t : H.State}
    (htake : r.firstAccepting word (r.children id) s = (some child, t))
    (hdeny : r.permits t who child = false) :
    Ends r who id (word :: rest) s (some (.denied child)) t
  /-- There are children but no handler, and the words are used up. -/
  | spent {id : NodeId} {s : H.State} (hchildren : r.children id ≠ [])
    (hh : r.hasHandler id = false) : Ends r who id [] s (some (.stuck id [])) s
  /-- There are children but no handler, and the next word fits no child. -/
  | unfit {id : NodeId} {word : String} {rest : List String} {s t : H.State}
    (hchildren : r.children id ≠ []) (hh : r.hasHandler id = false)
    (h : r.firstAccepting word (r.children id) s = (none, t)) :
    Ends r who id (word :: rest) s (some (.stuck id (word :: rest))) t

/-- What a walk answers that has come along a path and ended. -/
def walkAnswer (path : List NodeId) : Option Halt → Except Halt (List NodeId)
  | none => .ok path
  | some halt => .error halt

theorem walkAnswer_cons (child : NodeId) (path : List NodeId) (halt : Option Halt) :
    walkAnswer (child :: path) halt = (walkAnswer path halt).map (child :: ·) := by
  cases halt <;> rfl

/-- A walk takes the step that a descent takes. -/
theorem walk_step {child : NodeId} {word : String} {s' : H.State}
    (htake : r.firstAccepting word (r.children id) s = (some child, s'))
    (hpermit : r.permits s' who child = true) :
    r.walk who id (word :: words) s =
      ((r.walk who child words s').1.map (child :: ·), (r.walk who child words s').2) := by
  have hchildren : (r.children id).isEmpty = false :=
    List.isEmpty_eq_false_iff.mpr (List.ne_nil_of_mem (firstAccepting_mem htake))
  rw [walk]
  simp only [hchildren, htake, hpermit, if_true, Bool.false_eq_true, if_false]
  cases r.walk who child words s' with
  | mk answer t => cases answer <;> rfl

/-- A walk ends where it must. -/
theorem Ends.walk_eq {halt : Option Halt} (h : r.Ends who id rest s halt t) :
    r.walk who id rest s = (walkAnswer [] halt, t) := by
  cases h with
  | well h =>
    cases h with
    | leaf h => cases rest <;> simp [walk, h, walkAnswer]
    | spent hh => simp [walk, hh, walkAnswer]
    | unfit hh h =>
      rw [walk]
      split
      · next hleaf =>
        -- A node without children asks nobody.
        rw [List.isEmpty_iff.mp hleaf, firstAccepting] at h
        simp only [Prod.mk.injEq, true_and] at h
        rw [h, walkAnswer]
      · simp only [h, walkAnswer]
  | denied htake hdeny =>
    have hchildren := List.ne_nil_of_mem (firstAccepting_mem htake)
    simp [walk, hchildren, htake, hdeny, walkAnswer]
  | spent hchildren hh => simp [walk, hchildren, hh, walkAnswer]
  | unfit hchildren hh h => simp [walk, hchildren, hh, h, walkAnswer]

/-- Every walk is a descent to a node where it ends. -/
theorem exists_ends (r : Registry H) (who : H.Who) : ∀ (words : List String) (id : NodeId)
    (s : H.State),
    ∃ path last rest s' halt t, r.Descent who id words s path last rest s' ∧
      r.Ends who last rest s' halt t
  | [], id, s => by
    by_cases hleaf : r.children id = []
    · exact ⟨[], id, [], s, none, s, .stay id [] s, .well (.leaf hleaf)⟩
    · cases hh : r.hasHandler id with
      | true => exact ⟨[], id, [], s, none, s, .stay id [] s, .well (.spent hh)⟩
      | false => exact ⟨[], id, [], s, _, s, .stay id [] s, .spent hleaf hh⟩
  | word :: words, id, s => by
    by_cases hleaf : r.children id = []
    · exact ⟨[], id, _, s, none, s, .stay id _ s, .well (.leaf hleaf)⟩
    · cases hfirst : r.firstAccepting word (r.children id) s with
      | mk child s' =>
        cases child with
        | none =>
          -- No child takes the word; then only a handler here makes it a good end.
          cases hh : r.hasHandler id with
          | true => exact ⟨[], id, _, s, none, s', .stay id _ s, .well (.unfit hh hfirst)⟩
          | false => exact ⟨[], id, _, s, _, s', .stay id _ s, .unfit hleaf hh hfirst⟩
        | some child =>
          cases hpermit : r.permits s' who child with
          | false => exact ⟨[], id, _, s, _, s', .stay id _ s, .denied hfirst hpermit⟩
          | true =>
            -- The rest of the walk is a walk below the child.
            obtain ⟨path, last, rest, u, halt, t, hdescent, hends⟩ :=
              exists_ends r who words child s'
            exact ⟨child :: path, last, rest, u, halt, t, .step hfirst hpermit hdescent, hends⟩

theorem Descent.walk_eq {halt : Option Halt} {u : H.State}
    (h : r.Descent who id words s path last rest t) (hends : r.Ends who last rest t halt u) :
    r.walk who id words s = (walkAnswer path halt, u) := by
  induction h with
  | stay => exact hends.walk_eq
  | step htake hpermit _ ih => rw [walk_step htake hpermit, ih hends, walkAnswer_cons]

/-- **A walk answers what the end of its descent says.** -/
theorem walk_eq_iff {answer : Except Halt (List NodeId)} : r.walk who id words s = (answer, t) ↔
    ∃ path last rest s' halt, r.Descent who id words s path last rest s' ∧
      r.Ends who last rest s' halt t ∧ answer = walkAnswer path halt := by
  constructor
  · intro h
    obtain ⟨path, last, rest, s', halt, u, hdescent, hends⟩ := exists_ends r who words id s
    rw [hdescent.walk_eq hends, Prod.mk.injEq] at h
    obtain ⟨rfl, rfl⟩ := h
    exact ⟨path, last, rest, s', halt, hdescent, hends, rfl⟩
  · rintro ⟨path, last, rest, s', halt, hdescent, hends, rfl⟩
    exact hdescent.walk_eq hends

/-- **A walk that ends well is a descent to a node where it may end.** -/
theorem walk_eq_ok (h : r.walk who id words s = (.ok path, t)) :
    ∃ last rest s', r.Descent who id words s path last rest s' ∧ r.Stops last rest s' t := by
  obtain ⟨path', last, rest, s', halt, hdescent, hends, hanswer⟩ := walk_eq_iff.mp h
  cases hends with
  | well hstops =>
    obtain rfl := Except.ok.inj hanswer
    exact ⟨last, rest, s', hdescent, hstops⟩
  | denied _ _ => cases hanswer
  | spent _ _ => cases hanswer
  | unfit _ _ _ => cases hanswer

/-- Finding the words for a failure does nothing to the host. -/
theorem resolve_snd (r : Registry H) (who : H.Who) (sigil : String) (root : NodeId)
    (words : List String) (s : H.State) :
    (r.resolve who sigil root words s).2 = (r.walk who root words s).2 := by
  rw [resolve]
  cases r.walk who root words s with
  | mk answer t =>
    cases answer with
    | ok path => rfl
    | error halt => cases halt <;> rfl

end Registry

end CommandTree
