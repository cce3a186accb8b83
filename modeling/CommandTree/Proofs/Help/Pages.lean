import CommandTree.Proofs.Help.Command
import CommandTree.Proofs.Registry.Additions
import Mathlib.Algebra.Order.Floor.Div

/-!
# The pages of the help text

The commands that a reader may see are shown five to a page.  Any integer may be asked
for: below the first page the first one is shown, beyond the last page the last one.
The pages are a partition of the list: put one after the other they are all commands the
reader may see, in the order of their declaration.  So whoever asks for each page in turn
is told the usage lines of each of these commands once.

Between two messages the surroundings may change, and rights with them.  What is said
here of several messages is for as long as the reader's rights stay the same.

## Main definitions

* `Registry.commandsOn` — the commands on a page.
* `Registry.SameRights` — a player may do the same in two states.
* `Registry.PageAt` — the node of the help command that takes the number of a page.

## Main results

* `helpPage?_clamped` — every request gets the nearest page there is.
* `flatMap_commandsOn` — the pages one after the other are all commands.
* `SameRights.listing_eq` — a page is the same for as long as rights are.
* `PageAt.after` — the help command keeps its pages, whatever else is built on it.
* `Dispatcher.help_pages` — **the pages of the help command**.
-/

namespace CommandTree

variable {H : Host}

/-- The windows of a list at the multiples of their size make up its front. -/
theorem flatMap_windows {α : Type} (l : List α) (size n : Nat) :
    (List.range n).flatMap (fun k => (l.drop (k * size)).take size) = l.take (n * size) := by
  induction n with
  | zero => simp
  | succ n ih => simp [List.range_succ, ih, Nat.succ_mul, List.take_add]

namespace Registry

variable {r : Registry H} {m m' : H.State} {who : H.Who}

/-! ### Pages -/

/-- The commands on the page with the given number. -/
def commandsOn (r : Registry H) (m : H.State) (who : H.Who) (number : Nat) : List NodeId :=
  ((r.helpPage? m who number).map HelpPage.commands).getD []

/-- The number of the last page. -/
def lastPage (r : Registry H) (m : H.State) (who : H.Who) : Nat :=
  (r.visibleRoots m who).length ⌈/⌉ 5

/-- Each page but the last is full, and the last one is not empty. -/
theorem lastPage_spec (r : Registry H) (m : H.State) (who : H.Who) :
    (r.visibleRoots m who).length ≤ 5 * r.lastPage m who ∧
      5 * r.lastPage m who < (r.visibleRoots m who).length + 5 := by
  rw [lastPage, Nat.ceilDiv_eq_add_pred_div]
  omega

theorem helpPage?_of_nil (h : r.visibleRoots m who = []) (requested : Int) :
    r.helpPage? m who requested = none := by
  simp [helpPage?, h]

theorem helpPage?_of_ne_nil (h : r.visibleRoots m who ≠ []) (requested : Int) :
    r.helpPage? m who requested =
      let number := min (max requested 1).toNat (r.lastPage m who)
      some ⟨number, r.lastPage m who, ((r.visibleRoots m who).drop ((number - 1) * 5)).take 5⟩ := by
  have hempty : (r.visibleRoots m who).isEmpty = false := by simpa using h
  rw [helpPage?, hempty]
  rfl

/-- The page of a number in range is a window of the list. -/
theorem commandsOn_succ {k : Nat} (h : k < r.lastPage m who) :
    r.commandsOn m who (k + 1) = ((r.visibleRoots m who).drop (k * 5)).take 5 := by
  have hne : r.visibleRoots m who ≠ [] := by
    intro hnil
    obtain ⟨-, hlast⟩ := r.lastPage_spec m who
    rw [hnil, List.length_nil] at hlast
    omega
  have hnumber : min (max ((k + 1 : Nat) : Int) 1).toNat (r.lastPage m who) = k + 1 := by omega
  rw [commandsOn, helpPage?_of_ne_nil hne]
  simp only [hnumber, Option.map_some, Option.getD_some, Nat.add_sub_cancel]

/-- **Every request gets the nearest page there is**, and no page is empty or too long. -/
theorem helpPage?_clamped (h : r.visibleRoots m who ≠ []) (requested : Int) :
    ∃ p, r.helpPage? m who requested = some p ∧ p.last = r.lastPage m who ∧
      (p.number : Int) = max 1 (min requested (r.lastPage m who)) ∧
      p.commands = r.commandsOn m who p.number ∧ p.commands ≠ [] ∧ p.commands.length ≤ 5 := by
  obtain ⟨hfits, hfull⟩ := r.lastPage_spec m who
  have hlength := List.length_pos_iff.mpr h
  have hpage := helpPage?_of_ne_nil h requested
  obtain ⟨k, hk⟩ : ∃ k, min (max requested 1).toNat (r.lastPage m who) = k + 1 :=
    Nat.exists_eq_succ_of_ne_zero (by omega)
  have hlt : k < r.lastPage m who := by omega
  rw [hk] at hpage
  refine ⟨_, hpage, rfl, ?_, ?_, ?_, ?_⟩
  · show ((k + 1 : Nat) : Int) = _
    omega
  · exact (commandsOn_succ hlt).symm
  · refine List.length_pos_iff.mp ?_
    rw [List.length_take, List.length_drop]
    omega
  · exact List.length_take_le 5 _

/-- **The pages one after the other are all commands that the reader may see.** -/
theorem flatMap_commandsOn (r : Registry H) (m : H.State) (who : H.Who) :
    (List.range' 1 (r.lastPage m who)).flatMap (r.commandsOn m who) = r.visibleRoots m who := by
  have hpages : ∀ k ∈ List.range (r.lastPage m who), r.commandsOn m who (1 + k) =
      ((r.visibleRoots m who).drop (k * 5)).take 5 := by
    intro k hk
    rw [Nat.add_comm, commandsOn_succ (List.mem_range.mp hk)]
  obtain ⟨hfits, -⟩ := r.lastPage_spec m who
  rw [List.range'_eq_map_range, List.flatMap_map, List.flatMap_congr hpages, flatMap_windows,
    Nat.mul_comm]
  exact List.take_of_length_le hfits

/-! ### Rights -/

/-- A player has the same rights in both states: they may use the same nodes, and are an operator in
both or in neither. -/
structure SameRights (r : Registry H) (who : H.Who) (m m' : H.State) : Prop where
  isOp : H.isOp m' who = H.isOp m who
  permits : ∀ {id node}, r.node? id = some node → node.data.permits m' who = node.data.permits m who

theorem SameRights.isVisible_eq (h : r.SameRights who m m') (id : NodeId) :
    r.isVisible m' who id = r.isVisible m who id := by
  unfold isVisible
  cases hnode : r.node? id with
  | none => rfl
  | some node => simp [h.permits hnode, h.isOp]

theorem SameRights.visibleRoots_eq (h : r.SameRights who m m') :
    r.visibleRoots m' who = r.visibleRoots m who :=
  List.filter_congr fun id _ => h.isVisible_eq id

theorem SameRights.usageBelow_eq (h : r.SameRights who m m') (hr : r.WellFormed) {id : NodeId}
    {node : Node H} (hnode : r.node? id = some node) (words : List String) :
    r.usageBelow m' who words id = r.usageBelow m who words id := by
  induction id using (wellFounded_child hr).induction generalizing node words with
  | _ id ih =>
    have hbelow : ∀ words, ∀ c ∈ node.children,
        r.usageBelow m' who words c = r.usageBelow m who words c := by
      intro words c hc
      have hchild : c ∈ r.children id := by rwa [children_eq hnode]
      obtain ⟨child, hnode', -⟩ := (hr.mem_children hnode c).mp hc
      exact ih c hchild hnode' words
    rw [Registry.usageBelow_eq hr hnode, Registry.usageBelow_eq hr hnode, h.permits hnode,
      List.flatMap_congr (hbelow _)]

/-- **A page of the listing is the same for as long as the reader's rights are.** -/
theorem SameRights.listing_eq (h : r.SameRights who m m') (hr : r.WellFormed) (sigil : String)
    (requested : Int) : r.listing m' who sigil requested = r.listing m who sigil requested := by
  have hpage : r.helpPage? m' who requested = r.helpPage? m who requested := by
    rw [helpPage?, helpPage?, h.visibleRoots_eq]
  unfold listing
  rw [hpage]
  cases hsome : r.helpPage? m who requested with
  | none => rfl
  | some page =>
    have hne : r.visibleRoots m who ≠ [] := by
      intro hnil
      rw [helpPage?_of_nil hnil] at hsome
      cases hsome
    have hlines : ∀ id ∈ page.commands,
        r.usageLines m' who sigil id = r.usageLines m who sigil id := by
      intro id hid
      rw [helpPage?_of_ne_nil hne] at hsome
      cases hsome
      obtain ⟨node, hnode, -⟩ :=
        mem_visibleRoots.mp (List.mem_of_mem_drop (List.mem_of_mem_take hid))
      rw [usageLines, usageLines, h.usageBelow_eq hr hnode]
    simp only [List.flatMap_congr hlines]

/-! ### Asking for pages -/

/-- The help command, and the node below it that takes the number of a page.  Other nodes may have
been declared below both, and handlers put on others. -/
structure PageAt (r : Registry H) (root page : NodeId) : Prop where
  root : ∃ node others, r.node? root = some node ∧ node.data = helpData ∧ node.depth = 0 ∧
    node.children = page :: others
  page : ∃ node, r.node? page = some node ∧ node.data = helpData ∧
    node.argument = ⟨"page", .integer none⟩ ∧ node.handler = some HelpTask.page.handler

theorem HelpAt.pageAt {root page name : NodeId} (h : r.HelpAt root page name) :
    r.PageAt root page where
  root := ⟨_, [name], h.root_eq, rfl, rfl, rfl⟩
  page := ⟨_, h.page_eq, rfl, rfl, rfl⟩

section PageAt

variable {root page : NodeId} (h : r.PageAt root page)

include h

/-- A step keeps the pages of the help command unless it puts another handler on their node. -/
theorem PageAt.apply (hr : r.WellFormed) {step : BuildStep H}
    (hstep : ∀ handler, step ≠ .attach page handler) :
    (r.apply step).registry.PageAt root page := by
  obtain ⟨rootNode, others, hroot, hdata, hdepth, hchildren⟩ := h.root
  obtain ⟨pageNode, hpage, hdata', hargument, hhandler⟩ := h.page
  obtain ⟨newRoot, hnewRoot, hs, ⟨more, hmore⟩, -⟩ := (lasts_apply hr step).node hroot
  obtain ⟨newPage, hretained⟩ := exists_retained hr step hpage
  refine ⟨⟨newRoot, others ++ more, hnewRoot, hs.data.trans hdata, hs.depth.trans hdepth, ?_⟩,
    newPage, hretained.node, ?_, ?_, ?_⟩
  · rw [← hmore, hchildren, List.cons_append]
  · exact hretained.declaration.data.trans hdata'
  · exact hretained.declaration.argument.trans hargument
  · rw [hretained.handler_eq fun handler heq => absurd heq (hstep handler), hhandler]

/-- **The help command keeps its pages, whatever else is built on it.** -/
theorem PageAt.after (hr : r.WellFormed) {steps : List (BuildStep H)}
    (hsteps : ∀ step ∈ steps, ∀ handler, step ≠ .attach page handler) :
    (r.after steps).PageAt root page := by
  induction steps generalizing r with
  | nil => exact h
  | cons step steps ih =>
    exact ih (h.apply hr (hsteps step List.mem_cons_self)) (hr.grows (apply_grows r step))
      fun step hstep => hsteps step (List.mem_cons_of_mem _ hstep)

/-- The command is found by each of its names. -/
theorem PageAt.findRoot? (hr : r.Reachable) {word : String}
    (hword : word ∈ (helpData (H := H)).names) : r.findRoot? word = some root := by
  obtain ⟨node, others, hroot, hdata, hdepth, -⟩ := h.root
  refine hr.apart.findRoot?_eq_some_iff.mpr ⟨mem_roots.mpr ⟨node, hroot, hdepth⟩, ?_⟩
  rw [namesOf_eq hroot, hdata]
  exact hword

/-- The help command is shown to everyone. -/
theorem PageAt.mem_visibleRoots (m : H.State) (who : H.Who) : root ∈ r.visibleRoots m who := by
  obtain ⟨node, others, hroot, hdata, hdepth, -⟩ := h.root
  refine Registry.mem_visibleRoots.mpr ⟨node, hroot, hdepth, ?_⟩
  rw [hdata]
  rfl

/-- A word that is an integer goes to the page. -/
theorem PageAt.walk {arg : String} {requested : Int}
    (harg : Decimal.readInt? arg.toList = some requested) (s : H.State) :
    r.walk who root [arg] s = (.ok [page], s) := by
  obtain ⟨rootNode, others, hroot, -, -, hchildren⟩ := h.root
  obtain ⟨pageNode, hpage, hdata, hargument, hhandler⟩ := h.page
  have hbelow : r.children root = page :: others := by rw [children_eq hroot, hchildren]
  have haccepts : r.accepts page arg s = (true, s) := by
    simp [accepts, hpage, hargument, Argument.accept, harg, Argument.inBounds]
  have hpermits : r.permits s who page = true := by
    simp [permits, hpage, hdata, helpData, CommandData.permits]
  have hends : r.hasHandler page = true := by simp [hasHandler, handler?_eq hpage, hhandler]
  simp [Registry.walk, hbelow, firstAccepting, haccepts, hpermits, hends]

end PageAt

/-- **Once declared, the help command has its pages**, unless another handler is put on their
node. -/
theorem pageAt_addHelp (hr : r.WellFormed) {id : NodeId} (hok : r.addHelp.result = .ok id)
    {steps : List (BuildStep H)}
    (hsteps : ∀ step ∈ steps, ∀ handler, step ≠ .attach (r.size + 1) handler) :
    (r.addHelp.registry.after steps).PageAt r.size (r.size + 1) :=
  (helpAt_addHelp hok).pageAt.after (hr.grows (apply_grows r .help)) hsteps

end Registry

namespace Dispatcher

open Registry

variable {d : Dispatcher H}

/-- **A player who asks for a page is told that page.** -/
theorem dispatch_page {root page : NodeId} (hr : d.registry.Reachable)
    (h : d.registry.PageAt root page) {text word arg : String} {requested : Int}
    (hwords : d.words? text = some (word, [arg])) (hword : word ∈ (helpData (H := H)).names)
    (harg : Decimal.readInt? arg.toList = some requested) (who : H.Who) (s : Session H) :
    (d.dispatch who text s).visible = H.answered who
      (d.registry.listing (H.beginning who s.host) who d.sigil requested) s.host := by
  obtain ⟨rootNode, others, hroot, hdata, -, -⟩ := h.root
  obtain ⟨pageNode, hpage, -, hargument, hhandler⟩ := h.page
  refine dispatch_answered hwords ?_
  have hattempt : d.attempt who word [arg] s = d.follow who root [page] [arg] s := by
    simp only [attempt, select, h.findRoot? hr hword, hroot, hdata, helpData, CommandData.permits,
      if_true, resolve, Registry.resolve, h.walk harg]
  have hcooldown : (d.registry.node? root).bind (·.data.cooldown) = none := by
    rw [hroot, Option.bind_some, hdata]
    rfl
  have hdeepest : d.registry.deepestHandler? root [page] =
      some (page, HelpTask.page.handler, [page]) := by
    simp only [deepestHandler?, handler?_eq hpage, hhandler]
    rfl
  have hkind : (⟨"page", .integer none⟩ : Argument H).valueKind? = some .integer :=
    ArgumentType.valueKind?_eq _ (by decide)
  rw [hattempt]
  refine follow_help .page [.integer requested] (d.registry.listing · who d.sigil requested)
    hdeepest (fun s => ?_) rfl (fun _ => rfl) hcooldown s
  simp [extract, readings, hpage, hargument, hkind, Argument.isAxis, Argument.accept, harg,
    Argument.inBounds]

/-- **The pages of the help command.**  A reader who may see no command gets no page.  Everyone else
gets the nearest page to the one they ask for, whatever the integer; none is empty, and none has
more than five commands.  From the first page to the last they are the commands that the reader may
see, in the order of declaration.  So while the reader's rights stay the same, the replies to
requests for each page in turn list the usage lines of each of these commands once, in order, and of
no other. -/
theorem help_pages (hr : d.registry.Reachable) (who : H.Who) (m : H.State) :
    let r := d.registry
    let visible := r.visibleRoots m who
    let last := visible.length ⌈/⌉ 5
    let lines := r.usageLines m who d.sigil
    (visible.Sublist r.roots ∧ visible.Nodup ∧
      ∀ id, id ∈ visible ↔ id ∈ r.roots ∧ r.isVisible m who id = true) ∧
    (visible = [] → ∀ requested, r.helpPage? m who requested = none) ∧
    (visible ≠ [] → ∀ requested : Int, ∃ p, r.helpPage? m who requested = some p ∧
      p.last = last ∧ (p.number : Int) = max 1 (min requested last) ∧
      p.commands = r.commandsOn m who p.number ∧ p.commands ≠ [] ∧ p.commands.length ≤ 5) ∧
    (List.range' 1 last).flatMap (r.commandsOn m who) = visible ∧
    (∀ {root page text word arg requested} {s : Session H}, r.PageAt root page →
      d.words? text = some (word, [arg]) → word ∈ (helpData (H := H)).names →
      Decimal.readInt? arg.toList = some requested →
      r.SameRights who m (H.beginning who s.host) →
      ∃ p, r.helpPage? m who requested = some p ∧
        (d.dispatch who text s).visible = H.answered who
          (.styled .header (p.header d.sigil) :: (p.commands.flatMap lines).map .text) s.host) ∧
    ((List.range' 1 last).flatMap fun number => (r.commandsOn m who number).flatMap lines) =
      visible.flatMap lines := by
  intro r visible last lines
  have hall := r.flatMap_commandsOn m who
  refine ⟨⟨List.filter_sublist, ?_, fun id => List.mem_filter⟩, helpPage?_of_nil,
    helpPage?_clamped, hall, ?_, ?_⟩
  · exact (pairwise_visibleRoots r m who).imp Nat.ne_of_lt
  · intro root page text word arg requested s hpage hwords hword harg hrights
    have hne : visible ≠ [] := List.ne_nil_of_mem (hpage.mem_visibleRoots m who)
    obtain ⟨p, hp, -⟩ := helpPage?_clamped hne requested
    refine ⟨p, hp, ?_⟩
    rw [dispatch_page hr hpage hwords hword harg, hrights.listing_eq hr.wellFormed, listing, hp]
  · rw [← List.flatMap_assoc]
    exact congrArg (List.flatMap lines) hall

/-- The help command with six more commands: `stop`, of which Ann is shown nothing, and five others,
of which the last has a handler. -/
def kitSteps : List (BuildStep World.host) :=
  .command stopData ::
    ["a", "b", "c", "d", "e"].map (fun name => .command ⟨name, "", [], none, none, false, none⟩) ++
      [.attach 8 HelpTask.firstPage.handler]

/-- Ann asks for the greatest page that she can ask for, and gets the second one, which is the
last. -/
theorem help_pages_kit :
    let s := Session.start (H := World.host) (World.empty.join "Ann" false)
    let d : Dispatcher World.host :=
      ⟨ofSteps (.help :: kitSteps), "-", noActions, fun _ _ => none⟩
    d.registry.PageAt 0 1 ∧
    d.words? "-help 9223372036854775807" = some ("help", ["9223372036854775807"]) ∧
    (d.dispatch "Ann" "-help 9223372036854775807" s).visible =
      Host.answered World.host "Ann" [.styled .header
        "--- Showing help page 2 of 2 (-help <page: int>) ---", .text "-e"] s.host ∧
    d.registry.commandsOn s.host "Ann" 1 ++ d.registry.commandsOn s.host "Ann" 2 =
      [0, 4, 5, 6, 7, 8] := by
  intro s d
  have hr : d.registry.Reachable := ⟨_, rfl⟩
  have hpage : d.registry.PageAt 0 1 := by
    have hok : (empty : Registry World.host).addHelp.result = .ok 0 := by decide +kernel
    refine pageAt_addHelp wellFormed_empty hok fun step hstep => ?_
    rintro handler rfl
    simp [kitSteps] at hstep
    cases hstep.1
  have hwords : d.words? "-help 9223372036854775807" = some ("help", ["9223372036854775807"]) := by
    decide +kernel
  obtain ⟨-, -, -, hall, hasked, -⟩ := help_pages hr "Ann" s.host
  have hvisible : d.registry.visibleRoots s.host "Ann" = [0, 4, 5, 6, 7, 8] := by decide +kernel
  have harg : Decimal.readInt? "9223372036854775807".toList = some 9223372036854775807 := by
    decide +kernel
  obtain ⟨p, hp, hx⟩ := hasked (s := s) hpage hwords (by decide) harg ⟨rfl, fun _ => rfl⟩
  have hlast : d.registry.helpPage? s.host "Ann" 9223372036854775807 = some ⟨2, 2, [8]⟩ := by
    decide +kernel
  obtain rfl : ⟨2, 2, [8]⟩ = p := Option.some.inj (hlast.symm.trans hp)
  refine ⟨hpage, hwords, hx.trans ?_, ?_⟩
  · have hreply : HelpPage.header ⟨2, 2, [8]⟩ d.sigil =
          "--- Showing help page 2 of 2 (-help <page: int>) ---" ∧
        [8].flatMap (d.registry.usageLines s.host "Ann" d.sigil) = ["-e"] := by decide +kernel
    simp only [hreply]
    rfl
  · rw [hvisible] at hall
    simpa [Nat.ceilDiv_eq_add_pred_div, List.range'] using hall

end Dispatcher

end CommandTree
