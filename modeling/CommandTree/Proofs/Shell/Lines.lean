import CommandTree.Proofs.Shell.Conduct
import CommandTree.Proofs.Shell.Said

/-!
# The lines of a shell

A line says nothing, or it addresses a player, or it is chat.  Chat is dispatched, and
afterwards everyone reads their messages; nothing else a line can do touches the world.
So a shell whose acting player is online stays one, and whatever players are sent while
a line is handled is shown with this line.

## Main definitions

* `Shell.LineCourse` — the courses a line can take.
* `Shell.Ready` — a shell whose acting player is online.
* `Shell.Spoken`, `Shell.Account` — all that is to be said of chat, and of a line.
* `Shell.after`, `Shell.textLines` — a shell after several lines; the lines of an input.

## Main results

* `Shell.handleLine_course` — every line takes one of the courses.
* `Shell.Ready.account` — what becomes of a line.
* `Shell.runLines_eq`, `Shell.handleLines_getElem?` — a run is its lines one after the other.
* `Shell.run_account` — what becomes of all lines of a run.
-/

namespace CommandTree

variable {H : Host}

namespace Shell

/-! ### One line -/

/-- The world that the players of a shell live in. -/
def world (seat : Seat H) (shell : Shell H) : World := seat.world shell.session.host

/-- What is shown before the messages: chat that is no command. -/
def echo (name text : String) (outcome : Outcome) : List String :=
  if outcome = .ignored then ["<" ++ name ++ "> " ++ text] else []

/-- What becomes of chat that is dispatched. -/
def chatted (seat : Seat H) (shell : Shell H) (text : String) : LineResult H :=
  let x := shell.dispatcher.dispatch (seat.who shell.acting) text shell.session
  let drained := (seat.world x.session.host).drain
  ⟨echo shell.acting text x.outcome ++ drained.1.map fun (name, m) => showMessage name m,
    some (text, x),
    { shell with session := { x.session with host := seat.setWorld drained.2 x.session.host } }⟩

variable {seat : Seat H} {shell : Shell H} {line : String}

@[simp] theorem acting_chatted (seat : Seat H) (shell : Shell H) (text : String) :
    (chatted seat shell text).shell.acting = shell.acting := rfl

theorem speak_of_isOnline {text : String} (htext : text ≠ "")
    (honline : (shell.world seat).isOnline shell.acting = true) :
    speak seat shell text = chatted seat shell text := by
  have hisEmpty : ¬text.isEmpty = true := by rwa [String.isEmpty_iff]
  rw [speak, if_neg hisEmpty]
  exact if_pos honline

theorem speak_of_not_isOnline {text : String} (htext : text ≠ "")
    (hoff : (shell.world seat).isOnline shell.acting = false) :
    speak seat shell text = shell.remark (shell.acting ++ " is no longer online") := by
  have hisEmpty : ¬text.isEmpty = true := by rwa [String.isEmpty_iff]
  have hgone : ¬(shell.world seat).isOnline shell.acting = true := by rw [hoff]; exact nofun
  rw [speak, if_neg hisEmpty]
  exact if_neg hgone

theorem handleLine_of_nothing (h : said line = .nothing) :
    shell.handleLine seat line = ⟨[], none, shell⟩ := by
  rw [said] at h
  split at h
  · next hline => rw [handleLine, hline]
  · split at h <;> cases h

theorem handleLine_of_address {name text : String} (h : said line = .address name text) :
    shell.handleLine seat line =
      if (shell.world seat).isOnline name then speak seat { shell with acting := name } text
      else shell.remark ("No player named " ++ name ++ " is online") := by
  rw [said] at h
  split at h
  · cases h
  · next c rest hline =>
    split at h
    · next hc =>
      obtain ⟨rfl, rfl⟩ := Said.address.inj h
      simp only [handleLine, hline, hc]
      rfl
    · cases h

theorem handleLine_of_chat {text : String} (h : said line = .chat text) :
    shell.handleLine seat line = speak seat shell text := by
  rw [said] at h
  split at h
  · cases h
  · next c rest hline =>
    split at h
    · cases h
    · next hc =>
      obtain rfl := Said.chat.inj h
      have htrim : String.ofList (c :: rest) = Text.trim line := by
        rw [← hline, String.ofList_toList]
      rw [handleLine, hline]
      split
      · next hnil => exact nomatch hnil
      · next hcons => exact absurd (List.cons.inj hcons).1 hc
      · rw [htrim]

/-- The courses a line can take, by what it says. -/
inductive LineCourse (seat : Seat H) (shell : Shell H) : Said → LineResult H → Prop
  /-- It says nothing. -/
  | nothing : LineCourse seat shell .nothing ⟨[], none, shell⟩
  /-- Nobody of this name is online. -/
  | missed {name text : String} (h : (shell.world seat).isOnline name = false) :
    LineCourse seat shell (.address name text)
      (shell.remark ("No player named " ++ name ++ " is online"))
  /-- Another player acts from now on. -/
  | greeted {name : String} (h : (shell.world seat).isOnline name = true) :
    LineCourse seat shell (.address name "")
      (remark { shell with acting := name } ("Now chatting as " ++ name))
  /-- Another player acts from now on, and chats. -/
  | addressed {name text : String} (h : (shell.world seat).isOnline name = true) :
    LineCourse seat shell (.address name text) (chatted seat { shell with acting := name } text)
  /-- The acting player chats. -/
  | chatted {text : String} : LineCourse seat shell (.chat text) (chatted seat shell text)
  /-- The acting player is gone. -/
  | gone {text : String} (h : (shell.world seat).isOnline shell.acting = false) :
    LineCourse seat shell (.chat text) (shell.remark (shell.acting ++ " is no longer online"))

/-- **Every line takes one of the courses.** -/
theorem handleLine_course (seat : Seat H) (shell : Shell H) (line : String) :
    LineCourse seat shell (said line) (shell.handleLine seat line) := by
  cases hsaid : said line with
  | nothing =>
    rw [handleLine_of_nothing hsaid]
    exact .nothing
  | chat text =>
    rw [handleLine_of_chat hsaid]
    have htext := ne_empty_of_said hsaid
    cases hacting : (shell.world seat).isOnline shell.acting with
    | true =>
      rw [speak_of_isOnline htext hacting]
      exact .chatted
    | false =>
      rw [speak_of_not_isOnline htext hacting]
      exact .gone hacting
  | address name text =>
    rw [handleLine_of_address hsaid]
    cases hname : (shell.world seat).isOnline name with
    | false =>
      simp only [Bool.false_eq_true, if_false]
      exact .missed hname
    | true =>
      simp only [if_true]
      by_cases htext : text = ""
      · rw [htext]
        exact .greeted hname
      · have hspeak : speak seat { shell with acting := name } text =
            Shell.chatted seat { shell with acting := name } text :=
          speak_of_isOnline htext hname
        rw [hspeak]
        exact .addressed hname

theorem LineCourse.dispatcher_eq {content : Said} {result : LineResult H}
    (h : LineCourse seat shell content result) : result.shell.dispatcher = shell.dispatcher := by
  cases h <;> rfl

/-- Nothing happens in the session, or a message is dispatched as that of the player who acts from
then on, and afterwards everyone reads theirs. -/
theorem LineCourse.still_or_dispatched {content : Said} {result : LineResult H}
    (h : LineCourse seat shell content result) :
    (result.dispatched = none ∧ result.shell.session = shell.session) ∨
      ∃ text x, x = shell.dispatcher.dispatch (seat.who result.shell.acting) text shell.session ∧
        result.dispatched = some (text, x) ∧ result.shell.session =
          { x.session with
            host := seat.setWorld (seat.world x.session.host).drain.2 x.session.host } := by
  cases h with
  | nothing => exact .inl ⟨rfl, rfl⟩
  | missed h => exact .inl ⟨rfl, rfl⟩
  | greeted h => exact .inl ⟨rfl, rfl⟩
  | gone h => exact .inl ⟨rfl, rfl⟩
  | @addressed name text h => exact .inr ⟨text, _, rfl, rfl, rfl⟩
  | @chatted text => exact .inr ⟨text, _, rfl, rfl, rfl⟩

/-! ### What becomes of a line -/

/-- A shell with the dispatcher `d` whose acting player is online, everyone under a name of their
own. -/
structure Ready (seat : Seat H) (d : Dispatcher H) (shell : Shell H) : Prop where
  dispatcher : shell.dispatcher = d
  online : (shell.world seat).isOnline shell.acting = true
  /-- The players stand in the order of their names. -/
  ordered : (shell.world seat).Ordered

variable {d : Dispatcher H} {c : seat.Conduct d} {text : String}

/-- All that is to be said of chat of the player `name` in the session `s`. -/
structure Spoken (c : seat.Conduct d) (s : Session H) (name text : String) (x : Dispatched H)
    (result : LineResult H) : Prop where
  /-- It is dispatched as this player's. -/
  dispatched : x = d.dispatch (seat.who name) text s
  /-- The session goes on from there, after everyone has read their messages. -/
  session : result.shell.session =
    { x.session with host := seat.setWorld (seat.world x.session.host).drain.2 x.session.host }
  /-- Nothing is left to read. -/
  quiet : (result.shell.world seat).Quiet
  /-- It is shown if it is no command; then all messages that waited before, and that were sent in
  the meantime to those who are online, by recipient. -/
  shown : ∃ begun shown, d.Queried (seat.who name) s.host begun ∧
    seat.world x.session.host = (seat.world s.host).changed (c.doings (seat.who name) x begun) ∧
    Grouped ((seat.world s.host).drain.1 ++
      (World.messages (c.doings (seat.who name) x begun)).filter
        ((seat.world s.host).isOnline ·.1)) shown ∧
    result.transcript =
      echo name text x.outcome ++ shown.map fun (recipient, m) => showMessage recipient m

/-- All that is to be said of a line, by what it says. -/
structure Account (c : seat.Conduct d) (shell : Shell H) (content : Said)
    (result : LineResult H) : Prop where
  /-- The acting player was online and still is. -/
  online : (shell.world seat).isOnline result.shell.acting = true ∧
    (result.shell.world seat).isOnline result.shell.acting = true
  /-- Those are online who were. -/
  names : (result.shell.world seat).names = (shell.world seat).names
  /-- Another player acts only if the line addresses them. -/
  switched : result.shell.acting ≠ shell.acting →
    ∃ text, content = .address result.shell.acting text
  /-- Whoever is addressed and online acts. -/
  addressed : ∀ name text, content = .address name text →
    (shell.world seat).isOnline name = true → result.shell.acting = name
  /-- Nothing comes of addressing anyone else. -/
  missed : ∀ name text, content = .address name text →
    (shell.world seat).isOnline name = false →
      result = ⟨["No player named " ++ name ++ " is online"], none, shell⟩
  /-- If nothing is dispatched then nothing happens, and all that may be shown is who acts now, or
  that nobody of the name is online: the acting player is never gone. -/
  silent : result.dispatched = none → result.shell.session = shell.session ∧
    (content = .nothing ∧ result.transcript = [] ∨
      ∃ name text, content = .address name text ∧
        ((shell.world seat).isOnline name = false ∧
            result.transcript = ["No player named " ++ name ++ " is online"] ∨
          text = "" ∧ result.transcript = ["Now chatting as " ++ name]))
  /-- What is dispatched is what the line says, as chat of the player who acts from then on. -/
  spoken : ∀ text x, result.dispatched = some (text, x) →
    (content = .chat text ∨ content = .address result.shell.acting text) ∧
      Spoken c shell.session result.shell.acting text x result

theorem Ready.spoken (c : seat.Conduct d) (hshell : shell.Ready seat d) {said : String}
    {x : Dispatched H} (h : (chatted seat shell text).dispatched = some (said, x)) :
    said = text ∧ Spoken c shell.session shell.acting text x (chatted seat shell text) := by
  obtain ⟨rfl, -, hordered⟩ := hshell
  obtain ⟨rfl, rfl⟩ := Prod.mk.inj (Option.some.inj h)
  obtain ⟨begun, hbegun, hworld, -⟩ :=
    c.world_dispatch (seat.who shell.acting) text shell.session
  have hgrouped := World.grouped_drain hordered (c.doings (seat.who shell.acting)
    (shell.dispatcher.dispatch (seat.who shell.acting) text shell.session) begun)
  rw [world, ← hworld] at hgrouped
  refine ⟨rfl, rfl, rfl, ?_, begun, _, hbegun, hworld, hgrouped, rfl⟩
  rw [world, chatted, c.setWorld]
  exact World.quiet_drain _

theorem names_chatted (c : seat.Conduct d) (hd : shell.dispatcher = d) (text : String) :
    ((chatted seat shell text).shell.world seat).names = (shell.world seat).names := by
  obtain ⟨begun, -, hworld, -⟩ := c.world_dispatch (seat.who shell.acting) text shell.session
  rw [world, chatted, hd, c.setWorld, World.names_drain, hworld, World.names_changed]
  rfl

theorem Ready.switch (hshell : shell.Ready seat d) {name : String}
    (h : (shell.world seat).isOnline name = true) :
    Ready seat d { shell with acting := name } :=
  ⟨hshell.dispatcher, h, hshell.ordered⟩

/-- **What becomes of a line.** -/
theorem Ready.account (c : seat.Conduct d) (hshell : shell.Ready seat d) (line : String) :
    Account c shell (said line) (shell.handleLine seat line) := by
  have hcourse := handleLine_course seat shell line
  generalize shell.handleLine seat line = result at hcourse ⊢
  generalize said line = content at hcourse ⊢
  have contrary : ∀ {name}, (shell.world seat).isOnline name = true →
      (shell.world seat).isOnline name ≠ false := fun h => by rw [h]; exact Bool.noConfusion
  cases hcourse with
  | nothing =>
    exact {
      online := ⟨hshell.online, hshell.online⟩
      names := rfl
      switched := fun h => absurd rfl h
      addressed := nofun
      missed := nofun
      silent := fun _ => ⟨rfl, .inl ⟨rfl, rfl⟩⟩
      spoken := fun _ _ h => nomatch h }
  | @missed name text hname =>
    exact {
      online := ⟨hshell.online, hshell.online⟩
      names := rfl
      switched := fun h => absurd rfl h
      addressed := by
        rintro _ _ ⟨⟩ honline
        exact absurd hname (contrary honline)
      missed := by
        rintro _ _ ⟨⟩ _
        rfl
      silent := fun _ => ⟨rfl, .inr ⟨name, text, rfl, .inl ⟨hname, rfl⟩⟩⟩
      spoken := fun _ _ h => nomatch h }
  | @greeted name hname =>
    exact {
      online := ⟨hname, hname⟩
      names := rfl
      switched := fun _ => ⟨"", rfl⟩
      addressed := by
        rintro _ _ ⟨⟩ _
        rfl
      missed := by
        rintro _ _ ⟨⟩ hoff
        exact absurd hoff (contrary hname)
      silent := fun _ => ⟨rfl, .inr ⟨name, "", rfl, .inr ⟨rfl, rfl⟩⟩⟩
      spoken := fun _ _ h => nomatch h }
  | @addressed name text hname =>
    have hready := hshell.switch hname
    have hnames := names_chatted c hready.dispatcher text
    exact {
      online := by
        refine ⟨hname, ?_⟩
        rw [World.isOnline_congr hnames, acting_chatted]
        exact hname
      names := hnames
      switched := fun _ => ⟨text, rfl⟩
      addressed := by
        rintro _ _ ⟨⟩ _
        rfl
      missed := by
        rintro _ _ ⟨⟩ hoff
        exact absurd hoff (contrary hname)
      silent := nofun
      spoken := by
        intro said x h
        obtain ⟨rfl, hspoken⟩ := hready.spoken c h
        exact ⟨.inr rfl, hspoken⟩ }
  | @chatted text =>
    have hnames := names_chatted c hshell.dispatcher text
    exact {
      online := by
        refine ⟨hshell.online, ?_⟩
        rw [World.isOnline_congr hnames, acting_chatted]
        exact hshell.online
      names := hnames
      switched := fun h => absurd rfl h
      addressed := nofun
      missed := nofun
      silent := nofun
      spoken := by
        intro said x h
        obtain ⟨rfl, hspoken⟩ := hshell.spoken c h
        exact ⟨.inl rfl, hspoken⟩ }
  | gone hoff => exact absurd hoff (contrary hshell.online)

/-- The shell is ready for the next line. -/
theorem Ready.next (c : seat.Conduct d) (hshell : shell.Ready seat d) (line : String) :
    (shell.handleLine seat line).shell.Ready seat d := by
  have haccount := hshell.account c line
  have hdispatcher := (handleLine_course seat shell line).dispatcher_eq
  refine ⟨hdispatcher.trans hshell.dispatcher, haccount.online.2, ?_⟩
  rw [World.Ordered, haccount.names]
  exact hshell.ordered

/-- Nothing is left to read after a line if nothing was before. -/
theorem Account.quiet {content : Said} {result : LineResult H}
    (haccount : Account c shell content result) (hquiet : (shell.world seat).Quiet) :
    (result.shell.world seat).Quiet := by
  cases hdispatched : result.dispatched with
  | none =>
    rw [world, (haccount.silent hdispatched).1]
    exact hquiet
  | some said =>
    obtain ⟨text, x⟩ := said
    exact (haccount.spoken text x hdispatched).2.quiet

/-! ### Several lines -/

/-- The shell after several lines. -/
def after (seat : Seat H) (shell : Shell H) (lines : List String) : Shell H :=
  lines.foldl (fun shell line => (shell.handleLine seat line).shell) shell

theorem after_cons (seat : Seat H) (shell : Shell H) (line : String) (lines : List String) :
    shell.after seat (line :: lines) = (shell.handleLine seat line).shell.after seat lines :=
  List.foldl_cons ..

theorem dispatcher_after (seat : Seat H) (shell : Shell H) (lines : List String) :
    (shell.after seat lines).dispatcher = shell.dispatcher := by
  induction lines generalizing shell with
  | nil => rfl
  | cons line lines ih =>
    rw [after_cons, ih]
    exact (handleLine_course seat shell line).dispatcher_eq

theorem Ready.after (c : seat.Conduct d) (hshell : shell.Ready seat d) (lines : List String) :
    (shell.after seat lines).Ready seat d := by
  induction lines generalizing shell with
  | nil => exact hshell
  | cons line lines ih =>
    rw [after_cons]
    exact ih (hshell.next c line)

theorem Ready.quiet_after (c : seat.Conduct d) (hshell : shell.Ready seat d)
    (hquiet : (shell.world seat).Quiet) (lines : List String) :
    ((shell.after seat lines).world seat).Quiet := by
  induction lines generalizing shell with
  | nil => exact hquiet
  | cons line lines ih =>
    rw [after_cons]
    exact ih (hshell.next c line) ((hshell.account c line).quiet hquiet)

/-- Each of several lines is handled by the shell after those before it. -/
theorem handleLines_getElem? (seat : Seat H) (shell : Shell H) (lines : List String) (i : Nat) :
    (shell.handleLines seat lines)[i]? =
      lines[i]?.map ((shell.after seat (lines.take i)).handleLine seat) := by
  induction lines generalizing shell i with
  | nil => rfl
  | cons line lines ih =>
    rw [handleLines]
    cases i with
    | zero => rfl
    | succ i => rw [List.getElem?_cons_succ, ih, List.getElem?_cons_succ, List.take_succ_cons,
        after_cons]

/-- The lines that are read as text, up to the first that cannot be. -/
def textLines : List (List UInt8) → List String
  | [] => []
  | bytes :: rest =>
    match Text.decodeBytes bytes with
    | .error _ => []
    | .ok line => line :: textLines rest

theorem runLines_eq (seat : Seat H) (shell : Shell H) (lines : List (List UInt8)) :
    (shell.runLines seat lines).output =
        (shell.handleLines seat (textLines lines)).flatMap LineResult.transcript ∧
      (shell.runLines seat lines).shell = shell.after seat (textLines lines) := by
  induction lines generalizing shell with
  | nil => exact ⟨rfl, rfl⟩
  | cons bytes rest ih =>
    rw [runLines, textLines]
    cases Text.decodeBytes bytes with
    | error e => exact ⟨rfl, rfl⟩
    | ok line =>
      obtain ⟨houtput, hshell⟩ := ih (shell.handleLine seat line).shell
      rw [after_cons, handleLines, List.flatMap_cons, ← hshell, ← houtput]
      exact ⟨rfl, rfl⟩

/-- **What becomes of the lines of a run.**  Every line says one thing, and in a shell whose acting
player is online it is accounted for by this, whatever lines come before it.  The third part starts
from a shell in which nobody has anything to read: then nobody has after any line, so that nothing
waits when the next one comes.  The shell that the program opens is such a shell, and after a line
that is dispatched there is nothing to read in any case.  What a run over an input shows is what its
lines show, one after the other. -/
theorem run_account (c : seat.Conduct d) (hshell : shell.Ready seat d) :
    (∀ line, ∃! content, Says line content) ∧
    (∀ before line content, Says line content → Account c (shell.after seat before) content
      ((shell.after seat before).handleLine seat line)) ∧
    ((shell.world seat).Quiet → ∀ lines, ((shell.after seat lines).world seat).Quiet ∧
      ((shell.after seat lines).world seat).drain.1 = []) ∧
    (∀ lines (i : Nat), (shell.handleLines seat lines)[i]? =
      lines[i]?.map ((shell.after seat (lines.take i)).handleLine seat)) ∧
    ∀ input, (shell.run seat input).output =
        (shell.handleLines seat (textLines (splitLines input))).flatMap LineResult.transcript ∧
      (shell.run seat input).shell = shell.after seat (textLines (splitLines input)) :=
  ⟨existsUnique_content,
    fun before line _ hsays => hsays.said_eq ▸ (hshell.after c before).account c line,
    fun hquiet lines =>
      ⟨hshell.quiet_after c hquiet lines, (hshell.quiet_after c hquiet lines).drain_eq⟩,
    handleLines_getElem? seat shell, fun input => runLines_eq seat shell (splitLines input)⟩

/-! ### A command to try things on -/

/-- A world to which one action is added. -/
abbrev whisperHost : Host := { World.host with Action := Unit }

/-- The players live in the world itself. -/
def whisperSeat : Seat whisperHost := ⟨id, fun w _ => w, id⟩

/-- What whispering does: one player gets the word, and then the other is told so. -/
def whispers (call : Call whisperHost) : List (Value String) → List World.Change
  | [.player other, .text word] =>
    [.message other (.text word), .message call.who (.text "whispered")]
  | _ => []

/-- The command `-whisper <to> <word>`. -/
def whisperDispatcher : Dispatcher whisperHost :=
  ⟨.ofSteps [.command (.plain "whisper" ""), .argument 0 ⟨"to", .player⟩,
      .argument 1 ⟨"word", .string⟩, .attach 2 ⟨[.player, .text], .host ()⟩],
    "-", fun _ call values w => ⟨.done, 0, World.changed w (whispers call values)⟩,
    fun _ _ => none⟩

/-- Bob acts, and Ann is online too. -/
def whisperShell : Shell whisperHost :=
  ⟨whisperDispatcher, "Bob", .start ((World.empty.join "Bob" false).join "Ann" false)⟩

theorem type_whisper {id : NodeId} {node : Node whisperHost} {type : CustomType whisperHost}
    (hnode : whisperDispatcher.registry.node? id = some node) :
    node.argument.type ≠ .custom type := by
  have htypes : ∀ n ∈ whisperDispatcher.registry.nodes.toList,
      n.argument.type.isCustom = false := by decide +kernel
  exact ArgumentType.ne_custom
    (htypes node (Array.mem_def.mp (Array.mem_of_getElem? hnode))) type

/-- Whispering does what it does in the world. -/
def whisperConduct : whisperSeat.Conduct whisperDispatcher where
  changes _ call values _ := whispers call values
  action _ _ _ _ := rfl
  name_who _ := rfl
  deliver _ _ _ := rfl
  move h := (Option.some.inj h).symm
  find _ _ := rfl
  isValid _ _ := rfl
  accept hnode htype := absurd htype (type_whisper hnode)
  setWorld _ _ := rfl

theorem ready_whisper : whisperShell.Ready whisperSeat whisperDispatcher where
  dispatcher := rfl
  online := by decide +kernel
  ordered := (World.ordered_empty.join "Bob" false).join "Ann" false

/-- Bob chats and whispers, and Ann acts; what is whispered to her is shown first, for her name
comes first. -/
theorem run_account_whisper :
    whisperShell.Ready whisperSeat whisperDispatcher ∧
      (whisperShell.handleLines whisperSeat
          ["hello", "-whisper Ann psst", "@Eve -whisper Bob hey", "@Ann"]).map
        LineResult.transcript =
          [["<Bob> hello"], ["[Ann] psst", "[Bob] whispered"], ["No player named Eve is online"],
            ["Now chatting as Ann"]] ∧
      ∀ lines, ((whisperShell.after whisperSeat lines).world whisperSeat).Quiet := by
  have hquiet : (whisperShell.world whisperSeat).Quiet :=
    (World.quiet_empty.join "Bob" false).join "Ann" false
  obtain ⟨-, -, hafter, -⟩ := run_account whisperConduct ready_whisper
  exact ⟨ready_whisper, by decide +kernel, fun lines => (hafter hquiet lines).1⟩

end Shell

end CommandTree
