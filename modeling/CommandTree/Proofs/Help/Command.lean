import CommandTree.Proofs.Dispatch.Alone
import CommandTree.Proofs.Help.Visibility
import CommandTree.Launch

/-!
# The help command

The help command has two arguments side by side, a page and a name.  A word that is an
integer goes to the page; of all others the names of commands go to the name, hidden
commands among them, and what is left goes nowhere, so that the first page is shown.
The answers themselves show a reader nothing of hidden commands.  So the replies to a
player depend on hidden commands in one way only: a word that would be passed over is
refused with the same text as any other name the player may not see.

## Main definitions

* `Registry.HelpAt` — the nodes of the help command.
* `Registry.helpReply` — what the help command tells a player.
* `Host.answered` — what becomes of a player who is told something.

## Main results

* `helpAt_addHelp`, `helpAt_after` — the help command is declared, and stays.
* `Dispatcher.dispatch_help` — the help command tells a player just that.
* `Dispatcher.help_beside` — **what hidden commands change in the replies**.
-/

namespace CommandTree

variable {H : Host}

namespace Registry

variable {m : H.State} {who : H.Who} {r r' : Registry H} {f : NodeId → NodeId}
  {root page name : NodeId}

/-! ### The nodes of the command -/

/-- The three nodes are those of the help command, as it is declared and with nothing added. -/
structure HelpAt (r : Registry H) (root page name : NodeId) : Prop where
  root_eq : r.node? root = some ⟨helpData, ⟨"help", .literal⟩, 0, none, [page, name],
    some HelpTask.firstPage.handler⟩
  page_eq : r.node? page = some ⟨helpData, ⟨"page", .integer none⟩, 1, some root, [],
    some HelpTask.page.handler⟩
  name_eq : r.node? name = some ⟨helpData, ⟨"command", .custom (commandNameType H)⟩, 1, some root,
    [], some HelpTask.usage.handler⟩

/-- A handler put on a node, followed by other steps. -/
theorem exists_of_attach {target id : NodeId} {handler : Handler H} {node : Node H}
    {next : NodeId → Registry H → Built H} (hnode : r.node? target = some node)
    (h : ((r.attach target handler).andThen next).result = .ok id) :
    ∃ r' : Registry H, (r.attach target handler).andThen next = next target r' ∧
      r'.size = r.size ∧ r'.node? target = some { node with handler := some handler } ∧
      ∀ j other, target ≠ j → r.node? j = some other → r'.node? j = some other := by
  obtain ⟨j, hj, hthen⟩ := andThen_eq_ok h
  rw [attach_result hj] at hthen
  have hregistry : (r.attach target handler).registry = r.setHandler target handler := by
    rw [attach_eq hnode] at hj ⊢
    split at hj
    · next hfit => rw [if_pos hfit]
    · cases hj
  refine ⟨_, hthen, ?_⟩
  rw [hregistry]
  refine ⟨size_setHandler r target handler, ?_, fun j other hj hother => ?_⟩
  · rw [node?_setHandler, hnode, Option.map_some, if_pos rfl]
  · rw [node?_setHandler, hother, Option.map_some, if_neg hj]

/-- An argument below a node, followed by other steps. -/
theorem exists_of_argument {parent : NodeId} {node : Node H} (hnode : r.node? parent = some node)
    (a : Argument H) (next : NodeId → Registry H → Built H) :
    ∃ r' : Registry H, (r.argument parent a).andThen next = next r.size r' ∧
      r'.size = r.size + 1 ∧
      r'.node? r.size = some ⟨node.data, a, node.depth + 1, some parent, [], none⟩ ∧
      r'.node? parent = some (node.adopt r.size) ∧
      ∀ j other, parent ≠ j → r.node? j = some other → r'.node? j = some other := by
  refine ⟨(r.argument parent a).registry, ?_, argument_nodes hnode a⟩
  simp only [argument, hnode, Built.andThen, Built.grown]
  rfl

/-- **The help command is declared** with its three nodes at the end of the registry. -/
theorem helpAt_addHelp {id : NodeId} (h : r.addHelp.result = .ok id) :
    r.addHelp.registry.HelpAt r.size (r.size + 1) (r.size + 2) := by
  obtain ⟨root, hroot, hthen⟩ := andThen_eq_ok h
  obtain ⟨rfl, hfree⟩ := command_result hroot
  have hnode : (r.command helpData).registry.node? r.size =
      some ⟨helpData, ⟨"help", .literal⟩, 0, none, [], none⟩ := by
    rw [command_eq_push hfree, Built.grown, node?_push, if_pos rfl]
    rfl
  have hsize : (r.command (helpData (H := H))).registry.size = r.size + 1 := by
    rw [command_eq_push hfree, Built.grown, size_push]
  rw [addHelp, hthen] at h ⊢
  generalize (r.command helpData).registry = r₁ at h hnode hsize ⊢
  -- The root, the page and the name, each as soon as it is there.
  obtain ⟨r₂, heq, hsize₂, hroot₂, -⟩ := exists_of_attach hnode h
  rw [heq] at h ⊢
  obtain ⟨r₃, heq, hsize₃, hpage₃, hroot₃, -⟩ := exists_of_argument hroot₂ _ _
  rw [heq] at h ⊢
  have hpage : r₂.size = r.size + 1 := hsize₂.trans hsize
  rw [hpage] at h hsize₃ hpage₃ hroot₃ ⊢
  obtain ⟨r₄, heq, hsize₄, hpage₄, hold₄⟩ := exists_of_attach hpage₃ h
  rw [heq] at h ⊢
  have hroot₄ := hold₄ r.size _ (Nat.succ_ne_self _) hroot₃
  obtain ⟨r₅, heq, -, hname₅, hroot₅, hold₅⟩ := exists_of_argument hroot₄ _ _
  rw [heq] at h ⊢
  have hname : r₄.size = r.size + 2 := hsize₄.trans hsize₃
  rw [hname] at h hname₅ hroot₅ ⊢
  have hpage₅ := hold₅ (r.size + 1) _ (Nat.succ_ne_self _).symm hpage₄
  obtain ⟨r₆, heq, -, hname₆, hold₆⟩ := exists_of_attach hname₅ h
  rw [heq]
  exact ⟨hold₆ r.size _ (by simp) hroot₅, hold₆ (r.size + 1) _ (Nat.succ_ne_self _) hpage₅,
    hname₆⟩

/-- A step that builds on none of its nodes leaves the help command as it is. -/
theorem HelpAt.apply (h : r.HelpAt root page name) (hr : r.WellFormed) {step : BuildStep H}
    (hbase : (r.apply step).result.isOk = true → ∀ base ∈ step.base?, base ∉ [root, page, name]) :
    (r.apply step).registry.HelpAt root page name := by
  cases hresult : (r.apply step).result with
  | error e => rwa [apply_unchanged hr hresult]
  | ok _ =>
    have hother : ∀ id ∈ [root, page, name], ∀ base ∈ step.base?, base ≠ id := by
      rintro id hid base hstep rfl
      exact hbase (by rw [hresult]; rfl) base hstep hid
    exact ⟨apply_node? hr h.root_eq (hother root (by simp)),
      apply_node? hr h.page_eq (hother page (by simp)),
      apply_node? hr h.name_eq (hother name (by simp))⟩

/-- **The help command stays as it is** as long as no other step builds on its nodes. -/
theorem HelpAt.after (h : r.HelpAt root page name) (hr : r.WellFormed) {n k : Nat}
    (hnodes : ∀ id ∈ [root, page, name], n ≤ id ∧ id < k) {steps : List (BuildStep H)}
    (halone : leavesAlone n k r steps = true) : (r.after steps).HelpAt root page name := by
  induction steps generalizing r with
  | nil => exact h
  | cons step steps ih =>
    obtain ⟨hbase, halone⟩ := leavesAlone_cons_iff.mp halone
    refine ih (h.apply hr fun hok base hstep hmem => ?_) (hr.grows (apply_grows r step)) halone
    obtain ⟨hfirst, hlast⟩ := hnodes base hmem
    rcases hbase hok base hstep with hlt | hle
    · exact Nat.not_lt.mpr hfirst hlt
    · exact Nat.not_lt.mpr hle hlast

/-- So it stands in every registry that it was added to. -/
theorem helpAt_after (hr : r.WellFormed) {id : NodeId} (hok : (r.apply .help).result = .ok id)
    {later : List (BuildStep H)}
    (halone : leavesAlone r.size (r.apply .help).registry.size (r.apply .help).registry
      later = true) :
    ((r.apply .help).registry.after later).HelpAt r.size (r.size + 1) (r.size + 2) := by
  have hhelp : (r.apply .help).registry.HelpAt r.size (r.size + 1) (r.size + 2) :=
    helpAt_addHelp hok
  refine hhelp.after (hr.grows (apply_grows r .help)) ?_ halone
  have hlast := node?_lt hhelp.name_eq
  have hnode : ∀ i ≤ 2, r.size ≤ r.size + i ∧ r.size + i < (r.apply .help).registry.size :=
    fun i hi => ⟨Nat.le_add_right r.size i, Nat.lt_of_le_of_lt (Nat.add_le_add_left hi _) hlast⟩
  simp only [List.mem_cons, List.not_mem_nil, or_false, forall_eq_or_imp, forall_eq]
  exact ⟨hnode 0 (by decide), hnode 1 (by decide), hnode 2 (by decide)⟩

theorem HelpAt.of_within (h : r.HelpAt root page name) (hwithin : r.Within f r') :
    r'.HelpAt (f root) (f page) (f name) :=
  ⟨hwithin.node h.root_eq, hwithin.node h.page_eq, hwithin.node h.name_eq⟩

/-- The command is found by each of its names. -/
theorem HelpAt.findRoot? (h : r.HelpAt root page name) (hr : r.Reachable) {word : String}
    (hword : word ∈ (helpData (H := H)).names) : r.findRoot? word = some root := by
  refine hr.apart.findRoot?_eq_some_iff.mpr ⟨mem_roots.mpr ⟨_, h.root_eq, rfl⟩, ?_⟩
  rw [namesOf_eq h.root_eq]
  exact hword

/-! ### The way of a word -/

/-- The nodes below the root that words go to. -/
def helpPath (r : Registry H) (page name : NodeId) : List String → List NodeId
  | [] => []
  | word :: _ =>
    if (Decimal.readInt? word.toList).isSome then [page]
    else if word ∈ r.commandNames then [name]
    else []

/-- What the help command tells a player. -/
def helpReply (r : Registry H) (m : H.State) (who : H.Who) (sigil : String) :
    List String → List Message
  | [] => r.listing m who sigil 1
  | word :: _ =>
    match Decimal.readInt? word.toList with
    | some n => r.listing m who sigil n
    | none =>
      if word ∈ r.commandNames then r.explanation m who sigil word else r.listing m who sigil 1

theorem HelpAt.walk (h : r.HelpAt root page name) (args : List String) (s : H.State) :
    r.walk who root args s = (.ok (r.helpPath page name args), s) := by
  have hchildren : r.children root = [page, name] := by simp [children, h.root_eq]
  have hhandler : r.hasHandler root = true := by simp [hasHandler, handler?, h.root_eq]
  cases args with
  | nil => simp [Registry.walk, helpPath, hhandler]
  | cons word words =>
    have hpage : r.accepts page word s = ((Decimal.readInt? word.toList).isSome, s) := by
      simp only [accepts, h.page_eq, Argument.accept]
      cases Decimal.readInt? word.toList <;> simp [Argument.inBounds]
    have hname : r.accepts name word s = (decide (word ∈ r.commandNames), s) := by
      simp only [accepts, h.name_eq, Argument.accept, commandNameType]
      split <;> simp_all
    -- Both nodes permit everyone, and the walk ends on them.
    have hend : ∀ id node, r.node? id = some node → node.data = helpData → node.children = [] →
        r.permits s who id = true ∧ r.walk who id words s = (.ok [], s) := by
      intro id node hnode hdata hnone
      refine ⟨by simp [permits, hnode, hdata, helpData, CommandData.permits], ?_⟩
      cases words <;> simp [Registry.walk, children, hnode, hnone]
    obtain ⟨hpermits, hwalk⟩ := hend page _ h.page_eq rfl rfl
    obtain ⟨hpermits', hwalk'⟩ := hend name _ h.name_eq rfl rfl
    rw [Registry.walk, hchildren, firstAccepting, hpage, helpPath]
    cases hint : (Decimal.readInt? word.toList).isSome with
    | true => simp [hpermits, hwalk]
    | false =>
      simp only [List.isEmpty_cons, Bool.false_eq_true, if_false, firstAccepting, hname]
      by_cases hmem : word ∈ r.commandNames
      · simp [hmem, hpermits', hwalk']
      · simp [hmem, hhandler]

end Registry

/-! ### What a player is told -/

/-- What becomes of a player who is told something in answer to a command, and of the surroundings.
They are asked for twice before and once after, and told nothing if they have left. -/
def Host.answered (H : Host) (who : H.Who) (replies : List Message) (s : H.State) :
    Outcome × H.State :=
  match H.isValid who s with
  | (false, s) => (.senderGone, s)
  | (true, s) =>
    match H.isValid who s with
    | (false, s) => (.senderGone, (H.isValid who s).2)
    | (true, s) =>
      match H.isValid who (H.deliverAll who replies s) with
      | (false, s) => (.senderGone, s)
      | (true, s) => (.executed, s)

/-- The surroundings in which a handler begins. -/
def Host.beginning (H : Host) (who : H.Who) (s : H.State) : H.State :=
  (H.isValid who (H.isValid who s).2).2

/-- What is left of a dispatch for the player and the surroundings. -/
def Dispatched.visible (result : Dispatched H) : Outcome × H.State :=
  (result.outcome, result.session.host)

namespace Dispatcher

open Registry

variable {d d' : Dispatcher H} {who : H.Who} {root page name : NodeId}

/-- A path that ends on a help task, whose values do not depend on the surroundings. -/
theorem follow_help (task : HelpTask) (values : List (Value H.Who))
    (replies : H.State → List Message) {path taken : List NodeId} {node : NodeId}
    {args : List String}
    (hdeepest : d.registry.deepestHandler? root path = some (node, task.handler, taken))
    (hextract : ∀ s, d.registry.extract who taken args s = (values, s))
    (hconverts : firstMismatch? task.params values = none)
    (hperform : ∀ s, task.perform ⟨who, d.registry, d.sigil, node⟩
      (values.take task.params.length) s =
        ⟨.done, 0, H.deliverAll who (replies s) s⟩)
    (hcooldown : (d.registry.node? root).bind (·.data.cooldown) = none) (s : Session H) :
    (d.follow who root path args s).visible =
      H.answered who (replies (H.beginning who s.host)) s.host := by
  unfold follow Host.answered Host.beginning
  cases hfirst : H.isValid who s.host with
  | mk valid h =>
    cases valid with
    | false => rfl
    | true =>
      simp only [hdeepest, hextract]
      unfold call
      cases hsecond : H.isValid who h with
      | mk valid h' =>
        cases valid with
        | false => simp [Dispatched.visible]
        | true =>
          -- The task is carried out and ends well; what is left is whether the player stayed.
          have hinvoke : ∀ entry : Entry H, entry.handler = task.handler →
              entry.values = values.take task.params.length →
              d.invoke entry ⟨who, d.registry, d.sigil, node⟩ values h' =
                (some entry, ⟨.done, 0, H.deliverAll who (replies h') h'⟩) := by
            intro entry hhandler hvalues
            have hmatch : firstMismatch? entry.handler.params values = none := by
              rw [hhandler]
              exact hconverts
            rw [invoke, hmatch, hhandler, hvalues]
            exact congrArg (some entry, ·) (hperform h')
          dsimp only
          rw [hinvoke _ rfl rfl]
          cases hthird : H.isValid who (H.deliverAll who (replies h') h') with
          | mk stayed h'' =>
            cases stayed with
            | false => simp [hthird, Dispatched.visible]
            | true => simp [hthird, conclude, recordUse, hcooldown, Dispatched.visible]

/-- The first argument decides which node the handler is on, and what it tells. -/
theorem follow_helpPath (h : d.registry.HelpAt root page name) (who : H.Who)
    (args : List String) (s : Session H) :
    (d.follow who root (d.registry.helpPath page name args) args s).visible =
      H.answered who (d.registry.helpReply (H.beginning who s.host) who d.sigil args) s.host := by
  have hroot : d.registry.handler? root = some HelpTask.firstPage.handler := by
    rw [handler?_eq h.root_eq]
  have hcooldown : (d.registry.node? root).bind (·.data.cooldown) = none := by
    rw [h.root_eq]
    rfl
  -- Without an argument, or with one that goes nowhere, the root answers.
  have hbare : ∀ args, (d.follow who root [] args s).visible =
      H.answered who (d.registry.listing (H.beginning who s.host) who d.sigil 1) s.host := by
    intro args
    have hdeepest : d.registry.deepestHandler? root [] =
        some (root, HelpTask.firstPage.handler, []) := by
      rw [deepestHandler?, hroot]
      rfl
    exact follow_help .firstPage [] (d.registry.listing · who d.sigil 1) hdeepest
      (fun s => by simp [extract, readings]) rfl (fun _ => rfl) hcooldown s
  cases args with
  | nil => exact hbare []
  | cons word words =>
    cases hint : Decimal.readInt? word.toList with
    | some n =>
      have hdeepest : d.registry.deepestHandler? root [page] =
          some (page, HelpTask.page.handler, [page]) := by
        simp only [deepestHandler?, handler?_eq h.page_eq]
        rfl
      have hkind : (⟨"page", .integer none⟩ : Argument H).valueKind? = some .integer :=
        ArgumentType.valueKind?_eq _ (by decide)
      simp only [helpPath, helpReply, hint, Option.isSome_some, if_true]
      refine follow_help .page [.integer n] (d.registry.listing · who d.sigil n) hdeepest
        (fun s => ?_) rfl (fun _ => rfl) hcooldown s
      simp [extract, readings, h.page_eq, hkind, Argument.isAxis, Argument.accept, hint,
        Argument.inBounds]
    | none =>
      simp only [helpPath, helpReply, hint, Option.isSome_none, Bool.false_eq_true, if_false]
      by_cases hmem : word ∈ d.registry.commandNames
      · have hdeepest : d.registry.deepestHandler? root [name] =
            some (name, HelpTask.usage.handler, [name]) := by
          simp only [deepestHandler?, handler?_eq h.name_eq]
          rfl
        have hkind : (⟨"command", .custom (commandNameType H)⟩ : Argument H).valueKind? =
            some .text := ArgumentType.valueKind?_eq _ (by decide)
        simp only [hmem, if_true]
        refine follow_help .usage [.text word] (d.registry.explanation · who d.sigil word) hdeepest
          (fun s => ?_) rfl (fun _ => rfl) hcooldown s
        have haccept : Argument.accept ⟨"command", .custom (commandNameType H)⟩
            d.registry.commandNames word s = (some (.text word), s) := by
          simp [Argument.accept, commandNameType, hmem]
        simp [extract, readings, h.name_eq, hkind, Argument.isAxis, haccept]
      · simp only [hmem, if_false]
        exact hbare (word :: words)

theorem notices_answered (who : H.Who) (replies : List Message) (s : H.State) :
    notices (H.answered who replies s).1 = [] := by
  unfold Host.answered
  split
  · rfl
  · split
    · rfl
    · split <;> rfl

/-- An attempt that ends with a player being told something is all there is to the dispatch. -/
theorem dispatch_answered {text word : String} {args : List String} {s : Session H}
    {replies : List Message} (hwords : d.words? text = some (word, args))
    (hattempt : (d.attempt who word args s).visible = H.answered who replies s.host) :
    (d.dispatch who text s).visible = H.answered who replies s.host := by
  have hnotices : notices (d.attempt who word args s).outcome = [] := by
    rw [show (d.attempt who word args s).outcome = (d.attempt who word args s).visible.1 from rfl,
      hattempt, notices_answered]
  rw [← hattempt]
  simp only [dispatch, hwords, hnotices]
  rfl

/-- **What the help command tells a player**: a page of the listing or the explanation of a command,
and nothing else. -/
theorem dispatch_help (hr : d.registry.Reachable) (h : d.registry.HelpAt root page name)
    {text word : String} {args : List String} (hwords : d.words? text = some (word, args))
    (hword : word ∈ (helpData (H := H)).names) (who : H.Who) (s : Session H) :
    (d.dispatch who text s).visible =
      H.answered who (d.registry.helpReply (H.beginning who s.host) who d.sigil args) s.host := by
  refine dispatch_answered hwords ?_
  rw [← follow_helpPath h]
  simp only [attempt, select, h.findRoot? hr hword, h.root_eq, helpData, CommandData.permits,
    if_true, resolve, Registry.resolve, h.walk]

/-! ### Hidden commands -/

/-- The first argument is no integer, and it is the name of a command in the second registry
only. -/
def NamesExtra (r r' : Registry H) (args : List String) : Prop :=
  ∃ word ∈ args.head?, Decimal.readInt? word.toList = none ∧ word ∈ r'.commandNames ∧
    word ∉ r.commandNames

/-- **What hidden commands change in the replies of the help command.**  Two dispatchers have
registries that are built side by side, the second with more commands, all hidden from the player
when the handler begins.  To the same words the player is told the same by both; only if the first
argument is the name of one of the hidden commands, and no integer, the second one says that there
is no such command, and nothing else, where the first one passes the word over and shows its first
page. -/
theorem help_beside {f : NodeId → NodeId} {s s' : Session H} (hsigil : d'.sigil = d.sigil)
    (hhost : s'.host = s.host)
    (hbeside : Beside (H.beginning who s.host) who d.registry f d'.registry)
    (hhelp : d.registry.HelpAt root page name) {text word : String} {args : List String}
    (hwords : d.words? text = some (word, args)) (hword : word ∈ (helpData (H := H)).names) :
    ∃ replies replies',
      (d.dispatch who text s).visible = H.answered who replies s.host ∧
      (d'.dispatch who text s').visible = H.answered who replies' s.host ∧
      (¬NamesExtra d.registry d'.registry args → replies' = replies) ∧
      (NamesExtra d.registry d'.registry args →
        replies = d.registry.listing (H.beginning who s.host) who d.sigil 1 ∧
        replies' = [.error "Command not found!"]) := by
  have hembeds := hbeside.embeds
  obtain ⟨hr, hr'⟩ := hbeside.reachable
  have hwords' : d'.words? text = some (word, args) := by
    rw [← hwords, words?, words?, hsigil]
  have hdispatch := dispatch_help hr hhelp hwords hword who s
  have hdispatch' := dispatch_help hr' (hhelp.of_within hembeds.within) hwords' hword who s'
  rw [hhost, hsigil] at hdispatch'
  refine ⟨_, _, hdispatch, hdispatch', ?_, ?_⟩
  · intro hnone
    cases args with
    | nil => exact hembeds.listing_eq d.sigil 1
    | cons arg args =>
      cases hint : Decimal.readInt? arg.toList with
      | some n =>
        simp only [helpReply, hint]
        exact hembeds.listing_eq d.sigil n
      | none =>
        simp only [helpReply, hint]
        by_cases hmem : arg ∈ d.registry.commandNames
        · have hmem' := hembeds.mem_commandNames hmem
          simp only [hmem, hmem', if_true]
          exact hembeds.explanation_eq d.sigil arg
        · have hmem' : arg ∉ d'.registry.commandNames := fun hmem' =>
            hnone ⟨arg, rfl, hint, hmem', hmem⟩
          simp only [hmem, hmem', if_false]
          exact hembeds.listing_eq d.sigil 1
  · rintro ⟨arg, harg, hint, hmem', hmem⟩
    obtain ⟨rest, rfl⟩ := List.head?_eq_some_iff.mp harg
    simp only [helpReply, hint, hmem, hmem', if_true, if_false, true_and]
    exact hembeds.explanation_of_extra hmem

/-- The command `stop`, for operators only. -/
def stopData : CommandData World.host := ⟨"stop", "", [], none, none, true, none⟩

/-- Ann asks for `stop`, which she may not see: the word is refused only where there is the command,
and passed over otherwise. -/
theorem help_beside_stop :
    let s := Session.start (H := World.host) (World.empty.join "Ann" false)
    let quit : BuildStep World.host := .command (.plain "quit" "")
    let d : Dispatcher World.host := ⟨ofSteps [.help, quit], "-", noActions, fun _ _ => none⟩
    let d' : Dispatcher World.host :=
      ⟨ofSteps [.help, quit, .command stopData], "-", noActions, fun _ _ => none⟩
    d.registry.HelpAt 0 1 2 ∧ d.words? "-help stop" = some ("help", ["stop"]) ∧
    (d.dispatch "Ann" "-help stop" s).visible = Host.answered World.host "Ann"
      [.styled .header "--- Showing help page 1 of 1 (-help <page: int>) ---", .text "-help",
        .text "-help <page: int>", .text "-help <command: CommandName>"] s.host ∧
    (d'.dispatch "Ann" "-help stop" s).visible =
      Host.answered World.host "Ann" [.error "Command not found!"] s.host := by
  intro s quit d d'
  have hok : ((empty : Registry World.host).apply .help).result = .ok 0 := by decide +kernel
  have hhelp : (((empty : Registry World.host).apply .help).registry.after [quit]).HelpAt 0 1 2 :=
    helpAt_after wellFormed_empty hok (by decide +kernel)
  have hboth : Beside s.host "Ann" (ofSteps [.help, quit]) _ (ofSteps [.help, quit]) :=
    (Beside.empty.both .help rfl).both quit (by decide +kernel)
  have hbeside := hboth.extra (.command stopData)
    (by rintro _ ⟨⟩; decide +kernel) (fun _ h => nomatch h)
  have hwords : d.words? "-help stop" = some ("help", ["stop"]) := by decide +kernel
  have hextra : NamesExtra d.registry d'.registry ["stop"] :=
    ⟨"stop", rfl, by decide +kernel, by decide +kernel, by decide +kernel⟩
  have hsigil : d'.sigil = d.sigil := rfl
  have hhost : s.host = s.host := rfl
  obtain ⟨replies, replies', hdispatch, hdispatch', -, hreplies⟩ :=
    help_beside hsigil hhost hbeside hhelp hwords (by decide)
  obtain ⟨rfl, rfl⟩ := hreplies hextra
  refine ⟨hhelp, hwords, hdispatch.trans ?_, hdispatch'⟩
  refine congrArg (Host.answered World.host "Ann" · s.host) ?_
  decide +kernel

/-- The help command by itself, and together with the command `stop`, of which Ann is shown
nothing. -/
theorem beside_stop : Beside (World.empty.join "Ann" false) "Ann"
    (ofSteps [BuildStep.help]) (along id 0 0) (ofSteps [.help, .command stopData]) := by
  refine (Beside.empty.both .help rfl).extra (.command stopData) ?_ (fun _ h => nomatch h)
  rintro _ ⟨⟩
  decide +kernel

/-- So Ann is told of hidden commands what they are called: the same words, given to registries that
differ in the command `stop` only, get different replies. -/
theorem help_betrays_stop :
    let s := Session.start (H := World.host) (World.empty.join "Ann" false)
    let inbox (registry : Registry World.host) : List Message :=
      ((Dispatcher.dispatch ⟨registry, "-", noActions, fun _ _ => none⟩ "Ann" "-help stop"
        s).session.host.take "Ann").1
    Beside s.host "Ann" (ofSteps [.help]) (along id 0 0) (ofSteps [.help, .command stopData]) ∧
    inbox (ofSteps [.help]) =
      [.styled .header "--- Showing help page 1 of 1 (-help <page: int>) ---", .text "-help",
        .text "-help <page: int>", .text "-help <command: CommandName>"] ∧
    inbox (ofSteps [.help, .command stopData]) = [.error "Command not found!"] :=
  ⟨beside_stop, by decide +kernel, by decide +kernel⟩

end Dispatcher

end CommandTree
