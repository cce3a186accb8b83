import CommandTree.Proofs.Dispatch.Effects

/-!
# Permission to enter a handler

A handler is entered only after every stage of the dispatch has let the command
pass, and each stage asks its own question: whether the message is a command at
all, whether the player may use the command and every node below it, whether the
last use was long enough ago, whether the player is still there.  And a dispatch
enters one handler at most, once: whatever handlers leave in the state of the host,
and nothing else does, is there once afterwards if a handler was entered and not at
all if none was.

## Main definitions

* `Dispatcher.Authorized` — all that is asked before a handler is entered.
* `Dispatcher.Journal` — a part of the state of the host that only handlers write to.

## Main results

* `Approaches.authorized` — the stages of a dispatch ask all of it.
* `Journal.read_dispatch` — a dispatch adds the note of the handler it entered.
* `entry_authorized` — one handler at most is entered, once, and only if it is authorized.
-/

namespace CommandTree

variable {H : Host}

namespace Dispatcher

variable {d : Dispatcher H} {who : H.Who} {text : String} {s : Session H} {a : Approach H}
  {e : Entry H}

/-! ### What is asked before -/

/-- All that is asked before a handler is entered, each at its own time. -/
structure Authorized (d : Dispatcher H) (who : H.Who) (text : String) (s : Session H)
    (a : Approach H) (e : Entry H) : Prop where
  /-- The message begins with the sigil. -/
  sigil : d.sigil.toList <+: text.toList
  /-- What follows the sigil begins with a name. -/
  words : Token.tokenize (String.ofList (text.toList.drop d.sigil.length)) = a.name :: a.args
  /-- A root answers to the name, the player may use it, and no window between uses of it runs for
  a player of that name. -/
  root : ∃ node, d.registry.node? a.root = some node ∧ node.depth = 0 ∧
    a.name ∈ node.data.names ∧ node.data.permits s.host who = true ∧
    ∀ window last, node.data.cooldown = some window →
      s.cooldowns.lastUse? (H.name who, a.root) = some last → ¬ s.clock - last < window
  /-- The other words lead down the path until they are used up or fit no further. -/
  walked : d.registry.walk who a.root a.args s.host = (.ok a.path, a.resolved)
  /-- The path goes from the root to the last node that took a word. -/
  path : d.registry.path (a.path.getLastD a.root) = a.root :: a.path
  /-- The player may use every node of the path, at the time when it has taken its word. -/
  permitted : ∀ (i : Nat) (id : NodeId), a.path[i]? = some id →
    ∃ word m m', a.args[i]? = some word ∧ d.registry.AskedDuring who a.root a.args s.host m ∧
      d.registry.accepts id word m = (true, m') ∧ d.registry.permits m' who id = true
  /-- The player is there after the walk. -/
  resolved : H.isValid who a.resolved = (true, a.host)
  /-- The handler is that of the last node of the path that has one, or else of the root. -/
  handler : d.registry.handler? e.node = some e.handler ∧ e.node = a.taken.getLastD a.root ∧
    ∃ below, a.path = a.taken ++ below ∧ ∀ id ∈ below, d.registry.handler? id = none
  /-- The player is there when the handler begins. -/
  begun : (H.isValid who (d.calling who a).host).1 = true

/-- The words of a command. -/
theorem words?_eq_some {name : String} {args : List String}
    (h : d.words? text = some (name, args)) : d.sigil.toList <+: text.toList ∧
      Token.tokenize (String.ofList (text.toList.drop d.sigil.length)) = name :: args := by
  rw [words?] at h
  split at h
  · next hsigil =>
    refine ⟨List.isPrefixOf_iff_prefix.mp hsigil, ?_⟩
    split at h
    · cases h
    · next heq => cases h; exact heq
  · cases h

/-- **The stages of a dispatch ask all that is asked before a handler is entered.** -/
theorem Approaches.authorized (hr : d.registry.Reachable) (ha : d.Approaches who text s a)
    (hbegun : (H.isValid who (d.calling who a).host).1 = true) (hnode : e.node = a.node)
    (hhandler : e.handler = a.handler) : d.Authorized who text s a e := by
  obtain ⟨hsigil, hwords⟩ := words?_eq_some ha.words
  obtain ⟨node, hselected⟩ := select_eq_ok ha.selected
  obtain ⟨root, hroot, hdepth, hname⟩ := Registry.findRoot?_eq_some hselected.found
  obtain rfl : node = root := Option.some.inj (hselected.stands.symm.trans hroot)
  obtain ⟨last, rest, t, hdescent, -⟩ := ha.descent
  have hstart : a.chosen.host = s.host := by
    rw [← select_host d who a.name s, ha.selected]
  have hwalked := ha.walked
  rw [hstart] at hdescent hwalked
  refine ⟨hsigil, hwords, ⟨node, hroot, hdepth, hname, hselected.permitted, ?_⟩, hwalked, ?_, ?_,
    ha.valid, ?_, hbegun⟩
  · intro window last hwindow hlast
    exact Nat.not_lt.mpr (hselected.rested window last hwindow hlast)
  · rw [← hdescent.last_eq, hdescent.path_eq hr.wellFormed,
      (Registry.path_findRoot? hr.wellFormed hselected.found).1, List.singleton_append]
  · exact fun i id hid => hdescent.exists_askedDuring hid
  · rw [hnode, hhandler]
    exact Registry.deepestHandler?_eq_some ha.deepest

/-! ### What only handlers write to -/

/-- A part of the state of the host to which each handler adds its note when it is carried out, and
which nothing else touches. -/
structure Journal (d : Dispatcher H) (N : Type) where
  /-- The notes. -/
  read : H.State → List N
  /-- The notes that a task adds when it is carried out. -/
  note : Task H.Action → Call H → List (Value H.Who) → List N
  /-- Carrying out a task adds its notes. -/
  perform : ∀ task call values h,
    read (task.perform d.program call values h).state = read h ++ note task call values
  /-- Looking for a player adds nothing. -/
  find : ∀ name h, read (H.find name h).2 = read h
  /-- Asking whether a player is there adds nothing. -/
  isValid : ∀ who h, read (H.isValid who h).2 = read h
  /-- Telling a player of a failure adds nothing. -/
  told : ∀ who (failure : Failure) h, read (H.deliverAll who failure.notices h) = read h
  /-- Asking a type of the host for a word adds nothing. -/
  accept : ∀ {id : NodeId} {node : Node H} {type : CustomType H},
    d.registry.node? id = some node → node.argument.type = .custom type →
    ∀ commands word h, read (type.accept commands word h).2 = read h

namespace Journal

variable {N : Type} (j : d.Journal N)

/-- The notes that the handler adds which a dispatch has entered, if it has entered one. -/
def noteOf (who : H.Who) : Option (Entry H) → List N
  | none => []
  | some e => j.note e.handler.task ⟨who, d.registry, d.sigil, e.node⟩ e.values

/-- Questions add nothing, so what is added is the handler's. -/
theorem read_works {entry : Option (Entry H)} {h h' : H.State} (hw : d.Works who entry h h') :
    j.read h' = j.read h ++ j.noteOf who entry := by
  have hasked : ∀ {h t : H.State}, d.Queried who h t → j.read t = j.read h :=
    fun hq => hq.read_eq j.find j.isValid j.accept
  cases entry with
  | none => rw [hasked hw, noteOf, List.append_nil]
  | some e =>
    obtain ⟨begun, hbegun, hended⟩ := hw
    rw [hasked hended, carryOut, j.perform, hasked hbegun, noteOf]

/-- Telling a player of an outcome adds nothing. -/
theorem read_notices (who : H.Who) (outcome : Outcome) (h : H.State) :
    j.read (H.deliverAll who (notices outcome) h) = j.read h := by
  cases outcome with
  | failed failure => exact j.told who failure h
  | ignored => rfl
  | executed => rfl
  | softFailed => rfl
  | senderGone => rfl

/-- **A dispatch adds the notes of the handler it has entered, once, and otherwise nothing.** -/
theorem read_dispatch (who : H.Who) (text : String) (s : Session H) :
    j.read (d.dispatch who text s).session.host =
      j.read s.host ++ j.noteOf who (d.dispatch who text s).entry := by
  obtain ⟨h, hworks, hhost⟩ := dispatch_works d who text s
  rw [hhost, j.read_notices, j.read_works hworks]

end Journal

/-- Carrying out the small command is to sign for it. -/
def sign : Program (Host.still (List String)) := fun _ call _ h => ⟨.done, 3, h ++ [call.who]⟩

theorem deliverAll_still {S : Type} (who : String) (messages : List Message) (h : S) :
    (Host.still S).deliverAll who messages h = h :=
  List.foldl_fixed messages

/-- The signatures of those who have carried it out. -/
def signatures : (markDispatcher (Host.still (List String)) () sign).Journal String where
  read h := h
  note task call _ := if task matches .host () then [call.who] else []
  perform := by
    intro task call values h
    cases task with
    | help task => exact (deliverAll_still ..).trans (List.append_nil h).symm
    | teleport task =>
      refine Eq.trans ?_ (List.append_nil h).symm
      simp only [Task.perform, TeleportTask.perform]
      split <;> exact deliverAll_still ..
    | host action => rfl
  find _ _ := rfl
  isValid _ _ := rfl
  told _ _ _ := deliverAll_still ..
  accept hnode htype _ _ _ := by
    rw [custom_mark hnode htype]
    rfl

/-- **A dispatch enters one handler at most, once, and only if all that is asked before has been
answered well**: whatever handlers alone write to has the note of the handler that was entered, and
no other. -/
theorem entry_authorized (hr : d.registry.Reachable) (who : H.Who) (text : String) (s : Session H) :
    (∀ e, (d.dispatch who text s).entry = some e → ∃ a, d.Authorized who text s a e) ∧
    ∀ {N : Type} (j : d.Journal N), j.read (d.dispatch who text s).session.host =
      j.read s.host ++ j.noteOf who (d.dispatch who text s).entry := by
  refine ⟨fun e he => ?_, fun j => j.read_dispatch who text s⟩
  obtain ⟨a, ha, hbegun, -, rfl⟩ := entry_eq_some he
  exact ⟨a, ha.authorized hr hbegun rfl rfl⟩

/-- An operator who marks someone for the first time is authorized, and signs once. -/
theorem entry_authorized_mark :
    let d := markDispatcher (Host.still (List String)) () sign
    let marked := d.dispatch "ann" "-mark bob mark" (.start [])
    (∃ e a, marked.entry = some e ∧ d.Authorized "ann" "-mark bob mark" (.start []) a e) ∧
      marked.session.host = ["ann"] := by
  intro d marked
  have hr : d.registry.Reachable := reachable_mark ..
  have htask : marked.entry.map (·.handler.task matches .host ()) = some true := by decide +kernel
  obtain ⟨e, he, hhost⟩ := Option.map_eq_some_iff.mp htask
  obtain ⟨hauthorized, hjournal⟩ := entry_authorized hr "ann" "-mark bob mark" (.start [])
  obtain ⟨a, ha⟩ := hauthorized e he
  refine ⟨⟨e, a, he, ha⟩, ?_⟩
  have hread : marked.session.host = [] ++ signatures.noteOf "ann" marked.entry :=
    hjournal signatures
  rw [hread, he, Journal.noteOf, signatures, List.nil_append]
  exact if_pos hhost

end Dispatcher

end CommandTree
