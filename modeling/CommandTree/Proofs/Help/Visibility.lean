import CommandTree.Proofs.Registry.Arena
import CommandTree.Proofs.Registry.Embedding
import Mathlib.Data.List.Sort

/-!
# What the help text shows

The help text lists the commands a reader may see and goes down from them along the
children.  If one registry stands within another one all whose other commands are hidden
from the reader, the reader comes to the same nodes in both, and so the text is the
same, line by line.  This holds of the pages, of their number, and of the explanation of
a command.  It does not hold of the names of all commands, which include hidden ones.

## Main results

* `Embeds.visibleRoots_eq` — the commands a reader may see correspond.
* `Embeds.usageBelow_eq` — usage lines are the same.
* `Embeds.listing_eq`, `Embeds.explanation_eq` — **the answers of the help command are the same**.
* `Embeds.explanation_of_extra` — what is answered to a name that only the larger registry has.
-/

namespace CommandTree

variable {H : Host}

namespace Registry

variable {m : H.State} {who : H.Who} {r r' : Registry H} {f : NodeId → NodeId} {id : NodeId}

/-! ### Commands that a reader may see -/

theorem isVisible_eq {node : Node H} (h : r.node? id = some node) :
    r.isVisible m who id = !node.data.isHidden m who := by
  rw [isVisible, h, Option.any_some, CommandData.isHidden, Bool.not_not]

theorem mem_visibleRoots : id ∈ r.visibleRoots m who ↔
    ∃ node, r.node? id = some node ∧ node.depth = 0 ∧ node.data.isHidden m who = false := by
  rw [visibleRoots, List.mem_filter, mem_roots]
  constructor
  · rintro ⟨⟨node, hnode, hdepth⟩, hvisible⟩
    rw [isVisible_eq hnode] at hvisible
    exact ⟨node, hnode, hdepth, by simpa using hvisible⟩
  · rintro ⟨node, hnode, hdepth, hvisible⟩
    rw [isVisible_eq hnode, hvisible]
    exact ⟨⟨node, hnode, hdepth⟩, rfl⟩

theorem pairwise_visibleRoots (r : Registry H) (m : H.State) (who : H.Who) :
    (r.visibleRoots m who).Pairwise (· < ·) :=
  (List.pairwise_lt_range.filter _).filter _

/-- **The commands that a reader may see** correspond. -/
theorem Embeds.visibleRoots_eq (h : r.Embeds m who f r') :
    r'.visibleRoots m who = (r.visibleRoots m who).map f := by
  have hsorted : ((r.visibleRoots m who).map f).Pairwise (· < ·) := by
    rw [List.pairwise_map]
    refine (pairwise_visibleRoots r m who).imp_of_mem fun _ hj hij => ?_
    obtain ⟨node, hnode, -⟩ := mem_visibleRoots.mp hj
    exact h.mono hij (node?_lt hnode)
  refine List.Pairwise.eq_of_mem_iff (pairwise_visibleRoots r' m who) hsorted fun id' => ?_
  rw [List.mem_map]
  constructor
  · intro hid'
    obtain ⟨node', hnode', hdepth, hvisible⟩ := mem_visibleRoots.mp hid'
    by_cases hnew : ∀ j < r.size, f j ≠ id'
    · rw [h.hidden hnode' hnew hdepth] at hvisible
      cases hvisible
    · push Not at hnew
      obtain ⟨id, hlt, rfl⟩ := hnew
      obtain ⟨node, hnode⟩ := exists_node?_of_lt hlt
      rw [h.node hnode] at hnode'
      cases hnode'
      exact ⟨id, mem_visibleRoots.mpr ⟨node, hnode, hdepth, hvisible⟩, rfl⟩
  · rintro ⟨id, hid, rfl⟩
    obtain ⟨node, hnode, hdepth, hvisible⟩ := mem_visibleRoots.mp hid
    exact mem_visibleRoots.mpr ⟨_, h.node hnode, hdepth, hvisible⟩

theorem Embeds.nameOf_eq (h : r.Embeds m who f r') {node : Node H}
    (hnode : r.node? id = some node) : r'.nameOf (f id) = r.nameOf id := by
  rw [nameOf, nameOf, h.node hnode, hnode]
  rfl

/-! ### Usage lines -/

/-- **Usage lines are the same**, for a child of a corresponding node corresponds to a child. -/
theorem Embeds.usageBelow_eq (h : r.Embeds m who f r') {node : Node H}
    (hnode : r.node? id = some node) (words : List String) :
    r'.usageBelow m who words (f id) = r.usageBelow m who words id := by
  induction id using (wellFounded_child h.source).induction generalizing node words with
  | _ id ih =>
    have hbelow : ∀ words, ∀ c ∈ node.children,
        r'.usageBelow m who words (f c) = r.usageBelow m who words c := by
      intro words c hc
      have hchild : c ∈ r.children id := by rwa [children_eq hnode]
      obtain ⟨child, hnode', -⟩ := (h.source.mem_children hnode c).mp hc
      exact ih c hchild hnode' words
    rw [Registry.usageBelow_eq h.source hnode, Registry.usageBelow_eq h.target (h.node hnode)]
    show (if node.data.permits m who then
      (if node.handler.isSome then [withUsageWord words node] else []) ++
        (node.children.map f).flatMap (r'.usageBelow m who (withUsageWord words node)) else []) = _
    rw [List.flatMap_map, List.flatMap_congr (hbelow _)]

theorem Embeds.usageLines_eq (h : r.Embeds m who f r') (sigil : String) {node : Node H}
    (hnode : r.node? id = some node) :
    r'.usageLines m who sigil (f id) = r.usageLines m who sigil id := by
  rw [usageLines, usageLines, h.usageBelow_eq hnode, h.nameOf_eq hnode]

/-! ### Answers -/

theorem Embeds.helpPage?_eq (h : r.Embeds m who f r') (requested : Int) :
    r'.helpPage? m who requested =
      (r.helpPage? m who requested).map fun p => ⟨p.number, p.last, p.commands.map f⟩ := by
  simp only [helpPage?, h.visibleRoots_eq, List.isEmpty_map, List.length_map]
  split
  · rfl
  · simp [List.map_take, List.map_drop]

/-- **A page of the listing is the same.** -/
theorem Embeds.listing_eq (h : r.Embeds m who f r') (sigil : String) (requested : Int) :
    r'.listing m who sigil requested = r.listing m who sigil requested := by
  unfold listing
  rw [h.helpPage?_eq]
  cases hpage : r.helpPage? m who requested with
  | none => rfl
  | some page =>
    have hcommands : ∀ id ∈ page.commands, id ∈ r.visibleRoots m who := by
      intro id hid
      rw [helpPage?] at hpage
      split at hpage
      · cases hpage
      · cases hpage
        exact List.mem_of_mem_drop (List.mem_of_mem_take hid)
    have hlines : (page.commands.map f).flatMap (r'.usageLines m who sigil) =
        page.commands.flatMap (r.usageLines m who sigil) := by
      rw [List.flatMap_map]
      refine List.flatMap_congr fun id hid => ?_
      obtain ⟨node, hnode, -⟩ := mem_visibleRoots.mp (hcommands id hid)
      exact h.usageLines_eq sigil hnode
    simp only [Option.map_some, hlines]
    rfl

/-- **The explanation of a command is the same**, whatever the name. -/
theorem Embeds.explanation_eq (h : r.Embeds m who f r') (sigil name : String) :
    r'.explanation m who sigil name = r.explanation m who sigil name := by
  unfold explanation
  have hnames : ∀ id ∈ r.visibleRoots m who, r'.nameOf (f id) = r.nameOf id := by
    intro id hid
    obtain ⟨node, hnode, -⟩ := mem_visibleRoots.mp hid
    exact h.nameOf_eq hnode
  have hfind : (r'.visibleRoots m who).find? (fun id => r'.nameOf id == name) =
      ((r.visibleRoots m who).find? fun id => r.nameOf id == name).map f := by
    rw [h.visibleRoots_eq, List.find?_map, ← List.head?_filter, ← List.head?_filter]
    rw [List.filter_congr fun id hid => by rw [Function.comp_apply, hnames id hid]]
  rw [hfind]
  cases hfound : (r.visibleRoots m who).find? fun id => r.nameOf id == name with
  | none => rfl
  | some id =>
    obtain ⟨node, hnode, -⟩ := mem_visibleRoots.mp (List.mem_of_find?_eq_some hfound)
    simp only [Option.map_some, hnode, h.node hnode, h.usageLines_eq sigil hnode]
    rfl

/-- What is answered to a name that no command has but hidden ones: nothing about them. -/
theorem explanation_of_hidden {sigil name : String}
    (hname : ∀ id ∈ r.visibleRoots m who, r.nameOf id ≠ name) :
    r.explanation m who sigil name = [.error "Command not found!"] := by
  have hfind : (r.visibleRoots m who).find? (fun id => r.nameOf id == name) = none :=
    List.find?_eq_none.mpr fun id hid => by simpa using hname id hid
  rw [explanation, hfind]

/-! ### Names -/

theorem Embeds.mem_commandNames (h : r.Embeds m who f r') {name : String}
    (hname : name ∈ r.commandNames) : name ∈ r'.commandNames := by
  obtain ⟨id, hid, rfl⟩ := List.mem_map.mp hname
  obtain ⟨node, hnode, hdepth⟩ := mem_roots.mp hid
  exact List.mem_map.mpr ⟨f id, mem_roots.mpr ⟨_, h.node hnode, hdepth⟩, h.nameOf_eq hnode⟩

/-- A name that only the larger registry has is the name of a hidden command. -/
theorem Embeds.explanation_of_extra (h : r.Embeds m who f r') {sigil name : String}
    (hname : name ∉ r.commandNames) :
    r'.explanation m who sigil name = [.error "Command not found!"] := by
  rw [h.explanation_eq]
  refine explanation_of_hidden fun id hid heq => hname ?_
  exact List.mem_map.mpr ⟨id, List.mem_of_mem_filter hid, heq⟩

end Registry

end CommandTree
