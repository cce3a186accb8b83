import CommandTree.Proofs.Dispatch.Validity
import CommandTree.Proofs.Message

/-!
# Reports of handlers that went wrong

A handler can go wrong in two ways: it returns an error, which is a chain of texts, or it
panics and leaves one of two kinds of text or something else behind.  The player gets a
single message about it, at the end of which there is a report as JSON text.  The texts in
a report are anyone's: the words of an error may have quotes and control characters in
them, or be JSON themselves.  Still the report is read back as what was put into it, field
by field, so nothing in one field can be taken for another.

## Main definitions

* `Ending.GoesWrong` — what a handler says when it goes wrong.
* `readReport?` — what a report says.

## Main results

* `readReport?_compact`, `failureReport_injective` — a report says what was put into it.
* `outcome_eq_handlerFailed_iff` — when a dispatch ends with a report, and with which.
* `dispatch_reports` — a handler that goes wrong is reported once, and faithfully.
-/

namespace CommandTree

variable {H : Host}

/-! ### What is reported -/

/-- The handler goes wrong, with a message and what led to it, the nearest first. -/
inductive Ending.GoesWrong : Ending → String → List String → Prop
  /-- It returns an error: the first text is the message, all others in their order led to it. -/
  | raised {e : ErrorChain} {message : String} {causes : List String}
    (htexts : e.texts = message :: causes) : GoesWrong (.raised e) message causes
  /-- It panics and leaves a text behind that was put together. -/
  | string (message : String) : GoesWrong (.panic (.string message)) message []
  /-- It panics and leaves a text of the program behind. -/
  | str (message : String) : GoesWrong (.panic (.str message)) message []
  /-- It panics and leaves something else behind, of which nothing can be said. -/
  | other : GoesWrong (.panic .other) "handler panicked" []

theorem ErrorChain.texts_eq_iff {e : ErrorChain} {message : String} {causes : List String} :
    e.texts = message :: causes ↔ e.message = message ∧ e.causes = causes := by
  rcases e with ⟨_ | ⟨first, others⟩, hne⟩
  · exact absurd rfl hne
  · exact List.cons_eq_cons

/-- What a report says: the command, the message and the causes, in three fields of an object that
has no others. -/
def readReport? (report : String) : Option (String × String × List String) :=
  match (Json.parse? report).bind Json.fields? with
  | some [("command", command), ("message", message), ("causes", causes)] => do
    return (← command.text?, ← message.text?, ← causes.texts?)
  | _ => none

section Reports

variable {command message command' message' : String} {causes causes' : List String}

theorem isWritten_failureReport (command message : String) (causes : List String) :
    (failureReport command message causes).IsWritten :=
  Json.isWritten_ofFields (by simp [Json.isWritten_listOfTexts])

/-- **A report says what was put into it**, whatever the texts. -/
theorem readReport?_compact (command message : String) (causes : List String) :
    readReport? (failureReport command message causes).compact =
      some (command, message, causes) := by
  have hparse := Json.parse?_compact (isWritten_failureReport command message causes)
  have hfields : (failureReport command message causes).fields? = some
      [("command", .ofText command), ("message", .ofText message),
        ("causes", .array (causes.map .ofText))] := Json.fields?_ofFields _
  have hcauses := Json.text?_listOfTexts causes
  simp [readReport?, hparse, hfields, Json.text?_ofText, Json.texts?, hcauses]

/-- Reports with the same text are about the same failure. -/
theorem failureReport_injective
    (h : (failureReport command message causes).compact =
      (failureReport command' message' causes').compact) :
    command = command' ∧ message = message' ∧ causes = causes' := by
  have hread := congrArg readReport? h
  rw [readReport?_compact, readReport?_compact] at hread
  simpa using hread

end Reports

namespace Dispatcher

variable {d : Dispatcher H} {who : H.Who} {text command report : String} {s : Session H}
  {a : Approach H} {h : H.State}

/-! ### When there is a report -/

/-- A command fails for its handler just if this goes wrong, and then with a report of it. -/
theorem conclude_eq_handlerFailed_iff {name : String} {ending : Ending} :
    conclude command ending = .failed (.handlerFailed name report) ↔
      name = command ∧ ∃ message causes, ending.GoesWrong message causes ∧
        report = (failureReport command message causes).compact := by
  constructor
  · intro hx
    cases ending with
    | done => cases hx
    | fail => cases hx
    | raised e =>
      cases hx
      exact ⟨rfl, e.message, e.causes, .raised (ErrorChain.texts_eq_iff.mpr ⟨rfl, rfl⟩), rfl⟩
    | panic payload =>
      cases hx
      cases payload with
      | string message => exact ⟨rfl, message, [], .string message, rfl⟩
      | str message => exact ⟨rfl, message, [], .str message, rfl⟩
      | other => exact ⟨rfl, "handler panicked", [], .other, rfl⟩
  · rintro ⟨rfl, message, causes, hwrong, rfl⟩
    cases hwrong with
    | raised htexts =>
      obtain ⟨rfl, rfl⟩ := ErrorChain.texts_eq_iff.mp htexts
      rfl
    | string _ => rfl
    | str _ => rfl
    | other => rfl

/-- The handler of the approach begins in the state `h`, goes wrong with this message and these
causes, and its player is still there. -/
structure Breaks (d : Dispatcher H) (who : H.Who) (a : Approach H) (h : H.State) (message : String)
    (causes : List String) : Prop where
  /-- The player is there when the handler begins. -/
  begins : H.isValid who (d.calling who a).host = (true, h)
  /-- The handler goes wrong. -/
  wrong : (d.reply who a h).ending.GoesWrong message causes
  /-- The player is there when it is over. -/
  stays : (H.isValid who (d.reply who a h).state).1 = true

/-- A call ends with a report just if its handler breaks, and then with that of it. -/
theorem call_eq_handlerFailed_iff :
    (d.call who a.root a.node a.handler (d.values who a) (d.calling who a)).outcome =
        .failed (.handlerFailed command report) ↔
      command = d.registry.describe a.node ∧ ∃ h message causes,
        d.Breaks who a h message causes ∧
          report = (failureReport command message causes).compact := by
  cases hv : H.isValid who (d.calling who a).host with
  | mk begins h =>
    cases begins with
    | false =>
      rw [call_eq_gone hv]
      refine ⟨nofun, ?_⟩
      rintro ⟨-, h', message, causes, hbreaks, -⟩
      cases hv.symm.trans hbreaks.begins
    | true =>
      rw [call_eq_closing hv, closing_outcome]
      constructor
      · intro hx
        split at hx
        · next hstays =>
          obtain ⟨rfl, message, causes, hwrong, rfl⟩ := conclude_eq_handlerFailed_iff.mp hx
          exact ⟨rfl, h, message, causes, ⟨hv, hwrong, hstays⟩, rfl⟩
        · cases hx
      · rintro ⟨rfl, h', message, causes, hbreaks, rfl⟩
        obtain rfl : h = h' := congrArg Prod.snd (hv.symm.trans hbreaks.begins)
        rw [if_pos hbreaks.stays]
        exact conclude_eq_handlerFailed_iff.mpr ⟨rfl, message, causes, hbreaks.wrong, rfl⟩

/-- **A dispatch ends with a report just if a handler is called and breaks**, and then with that of
it. -/
theorem outcome_eq_handlerFailed_iff :
    (d.dispatch who text s).outcome = .failed (.handlerFailed command report) ↔
      ∃ a h message causes, d.Approaches who text s a ∧ d.Breaks who a h message causes ∧
        command = d.registry.describe a.node ∧
        report = (failureReport command message causes).compact := by
  constructor
  · intro hx
    have hcourse := dispatch_course d who text s
    generalize d.dispatch who text s = x at hcourse hx
    cases hcourse with
    | ignored _ => cases hx
    | refused _ hs =>
      cases hx
      cases select_isEarly hs
    | unresolved _ _ hr =>
      cases hx
      cases resolve_isEarly hr
    | gone _ _ _ _ => cases hx
    | incomplete _ _ _ _ _ => cases hx
    | @called a ha =>
      rw [tell_outcome] at hx
      obtain ⟨hcommand, h, message, causes, hbreaks, hreport⟩ := call_eq_handlerFailed_iff.mp hx
      exact ⟨a, h, message, causes, ha, hbreaks, hcommand, hreport⟩
  · rintro ⟨a, h, message, causes, ha, hbreaks, hcommand, hreport⟩
    rw [ha.dispatch_eq, tell_outcome]
    exact call_eq_handlerFailed_iff.mpr ⟨hcommand, h, message, causes, hbreaks, hreport⟩

/-- The player is told of a report in one message. -/
theorem host_of_breaks {message : String} {causes : List String}
    (ha : d.Approaches who text s a) (hbreaks : d.Breaks who a h message causes)
    (hx : (d.dispatch who text s).outcome = .failed (.handlerFailed command report)) :
    (d.dispatch who text s).session.host =
      H.deliver who (.error ("An error occurred while executing this command, " ++ report))
        (H.isValid who (d.reply who a h).state).2 := by
  rw [ha.dispatch_eq, tell_outcome] at hx
  rw [ha.dispatch_eq, tell_host, hx, call_host, joined_of_begun hbreaks.begins]
  rfl

/-! ### Reports are faithful -/

/-- **A handler that goes wrong is reported once, and faithfully.**  If its player is still there,
the command fails with a report that says, and says only, which command it was, the message and all
that led to it, whatever texts these are; and after the handler is over all that happens is that the
player gets one message, which ends with the report.  There are no other reports. -/
theorem dispatch_reports (d : Dispatcher H) (who : H.Who) (text : String) (s : Session H) :
    (∀ a h message causes, d.Approaches who text s a → d.Breaks who a h message causes →
      ∃ report,
        (d.dispatch who text s).outcome =
          .failed (.handlerFailed (d.registry.describe a.node) report) ∧
        readReport? report = some (d.registry.describe a.node, message, causes) ∧
        ∃ opening, (d.dispatch who text s).session.host =
          H.deliver who (.error (opening ++ report))
            (H.isValid who (d.reply who a h).state).2) ∧
    ∀ command report,
      (d.dispatch who text s).outcome = .failed (.handlerFailed command report) →
      ∃ a h message causes, d.Approaches who text s a ∧ d.Breaks who a h message causes ∧
        command = d.registry.describe a.node ∧
        readReport? report = some (command, message, causes) := by
  refine ⟨fun a h message causes ha hbreaks => ?_, fun command report hx => ?_⟩
  · have hx := outcome_eq_handlerFailed_iff.mpr
      ⟨a, h, message, causes, ha, hbreaks, rfl, rfl⟩
    exact ⟨_, hx, readReport?_compact _ _ _, _, host_of_breaks ha hbreaks hx⟩
  · obtain ⟨a, h, message, causes, ha, hbreaks, hcommand, rfl⟩ :=
      outcome_eq_handlerFailed_iff.mp hx
    exact ⟨a, h, message, causes, ha, hbreaks, hcommand, readReport?_compact _ _ _⟩

/-- An error whose texts have quotes, a control character and braces in them is reported as it is,
to a player who stays. -/
theorem dispatch_reports_mark :
    let d := markDispatcher Host.scripted () fun _ _ _ s =>
      ⟨.error "no \"bob\"" ["a\tb", "\x7b\"message\":\"c\"\x7d"], 3, s⟩
    let x := d.dispatch "ann" "-mark bob mark" (.start ([true, true, true], []))
    ∃ a h opening report, d.Approaches "ann" "-mark bob mark" (.start ([true, true, true], [])) a ∧
      d.Breaks "ann" a h "no \"bob\"" ["a\tb", "\x7b\"message\":\"c\"\x7d"] ∧
      readReport? report = some ("mark <who> <command>", "no \"bob\"",
        ["a\tb", "\x7b\"message\":\"c\"\x7d"]) ∧
      x.session.host = ([], [("ann", .error (opening ++ report))]) := by
  intro d x
  obtain ⟨hbroken, hreported⟩ :=
    dispatch_reports d "ann" "-mark bob mark" (.start ([true, true, true], []))
  -- What comes of the message is computed, and can only have come of a handler that broke.
  have hx : x.outcome = .failed (.handlerFailed "mark <who> <command>"
      (failureReport "mark <who> <command>" "no \"bob\""
        ["a\tb", "\x7b\"message\":\"c\"\x7d"]).compact) := by decide +kernel
  obtain ⟨a, h, message, causes, ha, hbreaks, hcommand, hread⟩ := hreported _ _ hx
  rw [readReport?_compact] at hread
  cases hread
  obtain ⟨report, hout, hread, opening, hhost⟩ := hbroken a h _ _ ha hbreaks
  rw [← hcommand] at hread
  refine ⟨a, h, opening, report, ha, hbreaks, hread, ?_⟩
  -- One message was sent in all, so nothing came before the report.
  have hall : x.session.host.1 = [] ∧ x.session.host.2.length = 1 := by decide +kernel
  rw [hhost] at hall ⊢
  obtain ⟨hanswers, hcount⟩ := hall
  refine Prod.ext hanswers ?_
  simpa using hcount

end Dispatcher

end CommandTree
