import CommandTree.Proofs.Resolve.Greedy

/-!
# Shadowed nodes

A word goes to the first child that takes it.  So a child is never reached if one that
is declared before it takes all the words that it takes, as is the case for two children
of the same type.  This holds as long as the two are asked in the same state of the
host, and surely if questions leave the host as it is.

## Main definitions

* `Registry.Still` — questions to nodes leave the host as it is.
* `Registry.Shadows` — a node is declared before another and takes whatever that takes.

## Main results

* `Still.steady` — nothing changes during a walk.
* `Shadows.of_type` — of two children of the same type the first shadows the other.
* `Shadows.notMem_walk` — no walk goes through a node that is shadowed.
-/

namespace CommandTree

variable {H : Host}

/-- What an argument that is no keyword makes of a word depends on its type alone. -/
theorem Argument.accept_eq_of_type {a b : Argument H} (htype : a.type = b.type)
    (hliteral : a.isLiteral = false) : a.accept = b.accept := by
  obtain ⟨name, type⟩ := a
  obtain ⟨other, type'⟩ := b
  obtain rfl : type = type' := htype
  funext commands word s
  cases type with
  | literal => cases hliteral
  | string => rfl
  | integer bounds => rfl
  | boolean => rfl
  | choice options => rfl
  | player => rfl
  | axis => rfl
  | custom type => rfl

namespace Registry

variable {r : Registry H} {who : H.Who} {root id first child last : NodeId} {words rest : List String}
  {path : List NodeId} {base s t m : H.State}

/-! ### Hosts that questions leave alone -/

/-- Questions to nodes leave the host as it is. -/
def Still (r : Registry H) : Prop := ∀ id word s, (r.accepts id word s).2 = s

theorem Still.eq_of_asked (hr : r.Still) (h : r.Asked s t) : t = s := by
  induction h with
  | refl => rfl
  | ask id word _ ih => rw [hr, ih]

/-- Nothing changes during a walk. -/
theorem Still.steady (hr : r.Still) (who : H.Who) (id : NodeId) (words : List String)
    (s : H.State) : r.Steady who s id words s where
  accepts {m} hm j word := by rw [hr.eq_of_asked hm.asked, takes]
  permits {m} hm j word := by rw [hr, hr.eq_of_asked hm.asked]

/-! ### Shadows -/

/-- The node `first` is declared before `child` under the same parent and takes every word that
`child` takes. -/
structure Shadows (r : Registry H) (base : H.State) (first child : NodeId) : Prop where
  /-- It is declared before. -/
  before : ∀ id before after, r.children id = before ++ child :: after → first ∈ before
  /-- It takes the same words. -/
  takes : ∀ word, r.takes base child word = true → r.takes base first word = true

/-- The first child of a node is declared before all its other children. -/
theorem mem_before_of_first {node : Node H} {parent : NodeId} {others before after : List NodeId}
    (hr : r.WellFormed) (hchildren : r.children parent = first :: others)
    (hchild : r.node? child = some node) (hparent : node.parent = some parent)
    (hne : child ≠ first) (hsplit : r.children id = before ++ child :: after) :
    first ∈ before := by
  have hmem : child ∈ r.children id := hsplit ▸ List.mem_append_right before List.mem_cons_self
  obtain ⟨node', hnode', hid⟩ := node?_of_mem_children hr hmem
  rw [hchild, Option.some.injEq] at hnode'
  rw [← hnode', hparent, Option.some.injEq] at hid
  rw [← hid, hchildren] at hsplit
  cases before with
  | nil => exact absurd (List.cons.inj hsplit).1.symm hne
  | cons b before => exact (List.cons.inj hsplit).1 ▸ List.mem_cons_self

/-- Of two nodes of the same type, the first shadows the other. -/
theorem Shadows.of_type {node node' : Node H}
    (hbefore : ∀ id before after, r.children id = before ++ child :: after → first ∈ before)
    (hfirst : r.node? first = some node) (hchild : r.node? child = some node')
    (htype : node.argument.type = node'.argument.type) (hliteral : node.argument.isLiteral = false)
    (base : H.State) : r.Shadows base first child where
  before := hbefore
  takes word htake := by
    have haccept := Argument.accept_eq_of_type htype hliteral
    rw [Registry.takes, accepts_eq hchild, ← haccept] at htake
    rw [Registry.takes, accepts_eq hfirst]
    exact htake

theorem Shadows.not_firstTaker (h : r.Shadows base first child) {word : String} :
    ¬r.FirstTaker base id word child := by
  rintro ⟨before, after, hchildren, hrefuse, htake⟩
  have hfirst := hrefuse first (h.before id before after hchildren)
  rw [h.takes word htake] at hfirst
  cases hfirst

theorem Shadows.notMem_greedy (h : r.Shadows base first child)
    (hg : r.Greedy who base id words path last rest) : child ∉ path := by
  induction hg with
  | stay => exact List.not_mem_nil
  | step hfirst _ _ ih =>
    rintro hmem
    -- The word would have gone to the node that is declared before.
    rcases List.mem_cons.mp hmem with rfl | hmem
    · exact h.not_firstTaker hfirst
    · exact ih hmem

/-- **No walk goes through a node that is shadowed**, on a host that questions leave as it is. -/
theorem Shadows.notMem_walk (h : r.Shadows s first child) (hr : r.Still)
    (hwalk : r.walk who root words s = (.ok path, t)) : child ∉ path := by
  obtain ⟨last, rest, s', hdescent, -⟩ := walk_eq_ok hwalk
  have hsteady := hr.steady who root words s
  exact h.notMem_greedy (hdescent.greedy hsteady).1

end Registry

end CommandTree
