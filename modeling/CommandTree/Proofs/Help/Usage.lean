import CommandTree.Proofs.Registry.Arena
import CommandTree.Proofs.Registry.Schema
import CommandTree.Rehearsal.Cast

/-!
# Usage lines by paths

Usage lines are collected while going down the tree, with the words of the nodes above at
hand.  There is another way to tell them: go through the nodes below a command, each before
the nodes below it and siblings in the order in which they were declared; keep those with a
handler that can be reached by nodes the reader may use only; and write down for each the
words along its path.  Going down, the words at hand always are those of the path, whatever
branches were visited before, and so both ways give the same lines.

## Main definitions

* `Registry.preorder` — a node and all nodes below it, in the order of the walk.
* `Registry.isUsable` — the nodes that have a line.
* `Registry.usageWords`, `Registry.usageLine` — the line of a node, read off its path.

## Main results

* `mem_preorder` — the walk comes to the nodes whose path leads through the first one.
* `pairwise_preorder` — it comes to them in the order of their paths.
* `usageBelow_eq_preorder` — what is collected below a node.
* `usageLines_eq_preorder` — **the usage lines of a command, told by paths**.
-/

namespace CommandTree

variable {H : Host}

namespace Registry

/-- A node and the nodes below it: a node before those below it, and what is below one child before
what is below the next. -/
def preorder (r : Registry H) (id : NodeId) : List NodeId :=
  id :: (r.children id).flatMap fun child =>
    if _h : id < child ∧ child < r.size then preorder r child else []
termination_by r.size - id
decreasing_by exact Nat.sub_lt_sub_left (Nat.lt_trans _h.1 _h.2) _h.1

/-- The word of a node below the root in a usage line: a keyword as it is typed, another argument
with its name and type in angle brackets.  Trailing arguments have none. -/
def usageWord? (r : Registry H) (id : NodeId) : Option String :=
  (r.node? id).bind fun node =>
    if node.argument.isTrailing then none
    else if node.argument.isLiteral then some node.argument.name
    else some ("<" ++ node.argument.name ++ ": " ++ node.argument.typeName ++ ">")

/-- The words of the nodes on the path to a node, the root apart. -/
def usageWords (r : Registry H) (id : NodeId) : List String :=
  (r.path id).tail.filterMap r.usageWord?

/-- The usage line of a node below the root of a command. -/
def usageLine (r : Registry H) (sigil : String) (root id : NodeId) : String :=
  joinWith " " ((sigil ++ r.nameOf root) :: r.usageWords id)

/-- Whether a node has a handler, and a reader may use it and all nodes above it. -/
def isUsable (r : Registry H) (s : H.State) (who : H.Who) (id : NodeId) : Bool :=
  r.hasHandler id && (r.path id).all (r.permits s who)

variable {r : Registry H} {id p c n : NodeId} {node : Node H} {s : H.State} {who : H.Who}

/-! ### The walk -/

/-- The walk goes on below every child.  That a child stands after its parent and within the
registry has not to be asked. -/
theorem preorder_eq (hr : r.WellFormed) (id : NodeId) :
    r.preorder id = id :: (r.children id).flatMap r.preorder := by
  rw [preorder]
  simp only [dite_eq_ite]
  exact congrArg _ (List.flatMap_congr fun child hchild => if_pos (child_lt hr hchild))

theorem mem_preorder_self (hr : r.WellFormed) (id : NodeId) : id ∈ r.preorder id := by
  rw [preorder_eq hr]
  exact List.mem_cons_self

theorem mem_preorder_iff (hr : r.WellFormed) :
    n ∈ r.preorder id ↔ n = id ∨ ∃ c ∈ r.children id, n ∈ r.preorder c := by
  rw [preorder_eq hr, List.mem_cons, List.mem_flatMap]

/-- With a node the walk comes to its children. -/
theorem child_mem_preorder (hr : r.WellFormed) (hp : p ∈ r.preorder id) (hc : c ∈ r.children p) :
    c ∈ r.preorder id := by
  induction id using (wellFounded_child hr).induction with
  | _ id ih =>
    refine (mem_preorder_iff hr).mpr (.inr ?_)
    rcases (mem_preorder_iff hr).mp hp with rfl | ⟨child, hchild, hbelow⟩
    · exact ⟨c, hc, mem_preorder_self hr c⟩
    · exact ⟨child, hchild, ih child hchild hbelow⟩

/-- The walk from a node comes to nodes whose path leads through it. -/
theorem path_prefix_of_mem_preorder (hr : r.WellFormed) (h : r.node? id = some node)
    (hn : n ∈ r.preorder id) :
    (∃ found, r.node? n = some found) ∧ r.path id <+: r.path n := by
  induction id using (wellFounded_child hr).induction generalizing node with
  | _ id ih =>
    rcases (mem_preorder_iff hr).mp hn with rfl | ⟨c, hc, hbelow⟩
    · exact ⟨⟨node, h⟩, List.prefix_refl _⟩
    · obtain ⟨child, hchild, -⟩ := node?_of_mem_children hr hc
      obtain ⟨hfound, hprefix⟩ := ih c hc hchild hbelow
      rw [path_of_mem_children hr hc] at hprefix
      exact ⟨hfound, (List.prefix_append _ _).trans hprefix⟩

/-- **The walk from a node comes to the nodes whose path leads through it**, and to no others. -/
theorem mem_preorder (hr : r.WellFormed) (h : r.node? id = some node) :
    n ∈ r.preorder id ↔ (∃ found, r.node? n = some found) ∧ r.path id <+: r.path n := by
  refine ⟨path_prefix_of_mem_preorder hr h, ?_⟩
  rintro ⟨⟨found, hfound⟩, hprefix⟩
  -- Going up from the node comes to `id`, and the walk comes down the same way.
  induction n using Nat.strong_induction_on generalizing found with
  | _ n ih =>
    cases hparent : found.parent with
    | none =>
      have hid : id ∈ r.path n := hprefix.subset (mem_path r id)
      rw [path_root hfound hparent, List.mem_singleton] at hid
      exact hid ▸ mem_preorder_self hr id
    | some p =>
      obtain ⟨hlt, parent, hp, -⟩ := hr.parent hfound hparent
      rw [path_child hr hfound hparent] at hprefix
      rcases List.prefix_concat_iff.mp hprefix with hsame | hprefix
      · obtain ⟨above, habove⟩ := exists_path_eq r id
        rw [habove] at hsame
        obtain ⟨-, hid⟩ := List.append_inj' hsame rfl
        exact List.singleton_inj.mp hid ▸ mem_preorder_self hr id
      · refine child_mem_preorder hr (ih p hlt hprefix parent hp) ?_
        rw [children_eq hp]
        exact (hr.mem_children hp n).mpr ⟨found, hfound, hparent⟩

/-- **The walk comes to nodes in the order of their paths**: a node comes before those below it, and
of two branches the one that was declared first. -/
theorem pairwise_preorder (hr : r.WellFormed) (h : r.node? id = some node) :
    (r.preorder id).Pairwise fun a b => r.path a < r.path b := by
  induction id using (wellFounded_child hr).induction generalizing node with
  | _ id ih =>
    have hbelow : ∀ c ∈ r.children id, ∀ n ∈ r.preorder c,
        ∃ rest, r.path n = r.path id ++ c :: rest := by
      intro c hc n hn
      obtain ⟨child, hchild, -⟩ := node?_of_mem_children hr hc
      obtain ⟨-, rest, hrest⟩ := path_prefix_of_mem_preorder hr hchild hn
      rw [path_of_mem_children hr hc, List.append_assoc, List.singleton_append] at hrest
      exact ⟨rest, hrest.symm⟩
    have hsorted : (r.children id).Pairwise (· < ·) := by
      rw [children_eq h]
      exact hr.sorted h
    rw [preorder_eq hr, List.pairwise_cons, List.pairwise_flatMap]
    refine ⟨fun n hn => ?_, fun c hc => ?_, ?_⟩
    · obtain ⟨c, hc, hn⟩ := List.mem_flatMap.mp hn
      obtain ⟨rest, hrest⟩ := hbelow c hc n hn
      have hlonger : r.path id ++ [] < r.path id ++ c :: rest :=
        List.append_left_lt (List.nil_lt_cons c rest)
      rw [List.append_nil] at hlonger
      rwa [hrest]
    · obtain ⟨child, hchild, -⟩ := node?_of_mem_children hr hc
      exact ih c hc hchild
    · refine hsorted.imp_of_mem fun {c c'} hc hc' hlt a ha b hb => ?_
      obtain ⟨rest, hrest⟩ := hbelow c hc a ha
      obtain ⟨rest', hrest'⟩ := hbelow c' hc' b hb
      rw [hrest, hrest']
      exact List.append_left_lt (List.cons_lt_cons_iff.mpr (.inl hlt))

/-! ### The words of a path -/

/-- The words at hand at a root, for which there are no words above. -/
theorem usageWords_root (h : r.node? id = some node) (hp : node.parent = none) :
    r.usageWords id = [] := by
  rw [usageWords, path_root h hp, List.tail_cons, List.filterMap_nil]

/-- Further down on a path come the words of the nodes in between, and no others. -/
theorem usageWords_append {rest : List NodeId} (h : r.path n = r.path p ++ rest) :
    r.usageWords n = r.usageWords p ++ rest.filterMap r.usageWord? := by
  obtain ⟨above, habove⟩ := exists_path_eq r p
  have hne : r.path p ≠ [] := by simp [habove]
  rw [usageWords, h, List.tail_append_of_ne_nil hne, List.filterMap_append, ← usageWords]

/-- The words at hand at a node below another one, from those at hand there. -/
theorem usageWords_child (hr : r.WellFormed) (h : r.node? id = some node)
    (hp : node.parent = some p) : r.usageWords id = withUsageWord (r.usageWords p) node := by
  obtain ⟨-, parent, -, hdepth⟩ := hr.parent h hp
  rw [usageWords_append (path_child hr h hp), withUsageWord, hdepth]
  cases htrailing : node.argument.isTrailing with
  | true => simp [usageWord?, h, htrailing]
  | false =>
    have hword : r.usageWord? id = some (usageWord node) := by
      rw [usageWord?, h, Option.bind_some, htrailing, if_neg Bool.false_ne_true, usageWord]
      split <;> rfl
    rw [List.filterMap_cons_some hword, List.filterMap_nil]
    rfl

/-! ### Nodes that have a line -/

theorem permits_eq (h : r.node? id = some node) :
    r.permits s who id = node.data.permits s who := by
  rw [permits, h, Option.any_some]

/-- A node below one that the reader may not use has no line, nor has that one. -/
theorem isUsable_of_denied {j : NodeId} (hj : j ∈ r.path n) (hdenied : r.permits s who j = false) :
    r.isUsable s who n = false := by
  have hall : (r.path n).all (r.permits s who) = false :=
    List.all_eq_false.mpr ⟨j, hj, by simp [hdenied]⟩
  rw [isUsable, hall, Bool.and_false]

/-- **What is collected below a node** that is reached by nodes the reader may use: the words along
the path for each node of the walk that has a line. -/
theorem usageBelow_eq_preorder (hr : r.WellFormed) (h : r.node? id = some node)
    (hpath : (r.path id).all (r.permits s who) = node.data.permits s who) {words : List String}
    (hwords : withUsageWord words node = r.usageWords id) :
    r.usageBelow s who words id =
      ((r.preorder id).filter (r.isUsable s who)).map r.usageWords := by
  induction id using (wellFounded_child hr).induction generalizing node words with
  | _ id ih =>
    rw [usageBelow_eq hr h]
    cases hpermit : node.data.permits s who with
    | false =>
      have hnone : (r.preorder id).filter (r.isUsable s who) = [] := by
        refine List.filter_eq_nil_iff.mpr fun n hn => ?_
        obtain ⟨-, hprefix⟩ := path_prefix_of_mem_preorder hr h hn
        have hid : id ∈ r.path n := hprefix.subset (mem_path r id)
        rw [isUsable_of_denied hid ((permits_eq h).trans hpermit)]
        exact Bool.false_ne_true
      rw [hnone]
      rfl
    | true =>
      rw [hpermit] at hpath
      -- The words at hand at a child are those of its path again.
      have hbelow : ∀ c ∈ node.children, r.usageBelow s who (withUsageWord words node) c =
          ((r.preorder c).filter (r.isUsable s who)).map r.usageWords := by
        intro c hc
        have hchild : c ∈ r.children id := by rwa [children_eq h]
        obtain ⟨child, hc', hparent⟩ := node?_of_mem_children hr hchild
        refine ih c hchild hc' ?_ ?_
        · rw [path_of_mem_children hr hchild, List.all_append, hpath, Bool.true_and, List.all_cons,
            List.all_nil, Bool.and_true, permits_eq hc']
        · rw [hwords, usageWords_child hr hc' hparent]
      have hself : r.isUsable s who id = node.handler.isSome := by
        rw [isUsable, hpath, Bool.and_true, hasHandler, handler?_eq h]
      rw [if_pos rfl, List.flatMap_congr hbelow, preorder_eq hr, children_eq h, List.filter_cons,
        hself, hwords, List.filter_flatMap]
      cases node.handler.isSome with
      | false => simp [List.map_flatMap]
      | true => simp [List.map_flatMap]

/-- **The usage lines of a command, told by paths.**  Going through the nodes below the command, in
the order of their paths, there is one line for each node that has a handler and is reached by nodes
the reader may use only.  There is none for a node at or below one that they may not use.  The words
of a line are those of the nodes on one path: they go on from the words of a node above with those
of the nodes in between. -/
theorem usageLines_eq_preorder (hr : r.Reachable) {root : NodeId} (hroot : root ∈ r.roots)
    (s : H.State) (who : H.Who) (sigil : String) :
    r.usageLines s who sigil root =
        ((r.preorder root).filter (r.isUsable s who)).map (r.usageLine sigil root) ∧
      (∀ n, n ∈ r.preorder root ↔
        (∃ node, r.node? n = some node) ∧ (r.path n).head? = some root) ∧
      (r.preorder root).Pairwise (fun a b => r.path a < r.path b) ∧
      ((r.preorder root).filter (r.isUsable s who)).Nodup ∧
      (∀ n, ∀ j ∈ r.path n, r.permits s who j = false →
        n ∉ (r.preorder root).filter (r.isUsable s who)) ∧
      (∀ n, ∀ word ∈ r.usageWords n, ∃ j ∈ (r.path n).tail, r.usageWord? j = some word) ∧
      ∀ p n rest, r.path n = r.path p ++ rest →
        r.usageWords n = r.usageWords p ++ rest.filterMap r.usageWord? := by
  have hw := hr.wellFormed
  obtain ⟨node, hnode, hdepth⟩ := mem_roots.mp hroot
  have hparent := hw.parent_eq_none hnode hdepth
  have hpath := path_root hnode hparent
  have hsorted := pairwise_preorder hw hnode
  refine ⟨?_, fun n => ?_, hsorted, ?_, fun n j hj hdenied hn => ?_, fun n word hword => ?_,
    fun p n rest => usageWords_append⟩
  · have hwords : withUsageWord [] node = r.usageWords root := by
      rw [usageWords_root hnode hparent, withUsageWord, hdepth]
      rfl
    have hall : (r.path root).all (r.permits s who) = node.data.permits s who := by
      rw [hpath, List.all_cons, List.all_nil, Bool.and_true, permits_eq hnode]
    rw [usageLines, usageBelow_eq_preorder hw hnode hall hwords, List.map_map]
    rfl
  · rw [mem_preorder hw hnode, hpath]
    cases r.path n with
    | nil => simp
    | cons j below => simp [eq_comm]
  · refine (hsorted.filter _).imp fun {a b} hlt heq => ?_
    rw [heq] at hlt
    exact List.lt_irrefl _ hlt
  · rw [List.mem_filter, isUsable_of_denied hj hdenied] at hn
    exact absurd hn.2 Bool.false_ne_true
  · exact List.mem_filterMap.mp hword

/-! ### An example -/

/-- The command `camp` for a place with or without a name, and with the keyword `watch`, which only
ann may use, for a number of hours.  The hours are declared after the place. -/
def campTree : Registry (Host.still Unit) :=
  ofSteps [.command (.plain "camp" ""),
    .literal 0 ⟨"watch", "", [], some fun _ who => who == "ann", none, false, none⟩,
    .location 0 "place", .argument 1 ⟨"hours", .integer none⟩, .argument 4 ⟨"name", .string⟩,
    .attach 0 ⟨[], .host ()⟩, .attach 4 ⟨[.location], .host ()⟩,
    .attach 5 ⟨[.integer], .host ()⟩, .attach 6 ⟨[.location, .text], .host ()⟩]

/-- Bob is shown three of the four nodes with a handler, and the axes of the place as one word. -/
theorem usageLines_eq_preorder_camp :
    0 ∈ campTree.roots ∧ campTree.preorder 0 = [0, 1, 5, 2, 3, 4, 6] ∧
      campTree.usageLines () "bob" "-" 0 = [0, 4, 6].map (campTree.usageLine "-" 0) ∧
      campTree.usageLine "-" 0 6 = "-camp <place: location> <name: string>" ∧
      5 ∉ (campTree.preorder 0).filter (campTree.isUsable () "bob") := by
  have hroot : 0 ∈ campTree.roots := by decide +kernel
  have hwalk : campTree.preorder 0 = [0, 1, 5, 2, 3, 4, 6] := by decide +kernel
  have hkept : (campTree.preorder 0).filter (campTree.isUsable () "bob") = [0, 4, 6] := by
    decide +kernel
  have hdenied : 1 ∈ campTree.path 5 ∧ campTree.permits () "bob" 1 = false := by decide +kernel
  obtain ⟨hlines, -, -, -, hnone, -, -⟩ :=
    usageLines_eq_preorder (r := campTree) ⟨_, rfl⟩ hroot () "bob" "-"
  rw [hkept] at hlines
  refine ⟨hroot, hwalk, hlines, ?_, hnone 5 1 hdenied.1 hdenied.2⟩
  decide +kernel

end Registry

end CommandTree
