import CommandTree.Proofs.Dispatch.Validity

/-!
# What a dispatch says and what it writes down

A message has an outcome, the player may be told something, and a use may be recorded.
The three go together: only failures are told, and each in its own words; only what was
executed is recorded.  A message that is not recorded leaves no trace in the table of
last uses.  It may take back entries whose window has passed, but no later question can
tell the difference, and neither can any run that goes on from there.

## Main definitions

* `Dispatcher.Agree` — two tables that give the same answers from some time on.
* `Dispatcher.Alike` — two sessions that no run can tell apart.
* `Dispatcher.Told`, `Dispatcher.Concluded`, `Dispatcher.Booked` — what goes with an outcome.

## Main results

* `Fades.agree` — taking back what has passed does not change any answer.
* `dispatch_alike`, `run_alike` — sessions that are alike stay alike, and answer alike.
* `dispatch_accounted` — outcome, messages and records go together.
-/

namespace CommandTree

variable {H : Host}

namespace Dispatcher

variable {d : Dispatcher H} {who : H.Who} {text name : String} {args : List String}
  {s s' : Session H} {now later : Span} {t t' u : Cooldowns}

/-! ### Tables that agree -/

/-- From the time `now` on the two tables give the same answer to every question that a dispatch can
ask, that is, with the window of the command in question. -/
def Agree (d : Dispatcher H) (now : Span) (t t' : Cooldowns) : Prop :=
  ∀ key window later, d.registry.cooldown? key.2 = some window → now ≤ later →
    (t.remaining key window later).1 = (t'.remaining key window later).1

theorem Agree.symm (h : d.Agree now t t') : d.Agree now t' t :=
  fun key window later hwindow hlater => (h key window later hwindow hlater).symm

theorem Agree.trans (h : d.Agree now t t') (h' : d.Agree now t' u) : d.Agree now t u :=
  fun key window later hwindow hlater =>
    (h key window later hwindow hlater).trans (h' key window later hwindow hlater)

theorem Agree.mono (h : d.Agree now t t') (hle : now ≤ later) : d.Agree later t t' :=
  fun key window time hwindow htime => h key window time hwindow (Nat.le_trans hle htime)

theorem Agree.record (h : d.Agree now t t') (key : CooldownKey) (time : Span) :
    d.Agree now (t.record key time) (t'.record key time) := by
  intro other window later hwindow hlater
  have hother := h other window later hwindow hlater
  rw [Cooldowns.remaining_fst, Cooldowns.remaining_fst] at hother ⊢
  rw [Cooldowns.lastUse?_record, Cooldowns.lastUse?_record]
  by_cases hkey : other = key
  · rw [if_pos hkey, if_pos hkey]
  · rw [if_neg hkey, if_neg hkey]
    exact hother

/-- **Taking back what has passed does not change any answer**: it has still passed later on. -/
theorem Fades.agree (h : d.Fades now t t') : d.Agree now t t' := by
  intro key window later hwindow hlater
  rw [Cooldowns.remaining_fst, Cooldowns.remaining_fst]
  rcases h key with hkept | ⟨hgone, window', last, hwindow', hlast, hover⟩
  · rw [hkept]
  · rw [hwindow, Option.some.injEq] at hwindow'
    have hstill : ¬later - last < window := by
      rw [hwindow']
      exact Nat.not_lt.mpr (Nat.le_trans hover (Nat.sub_le_sub_right hlater last))
    rw [hgone, hlast, Option.bind_some, if_neg hstill, Option.bind_none]

/-! ### Sessions that are alike -/

/-- The sessions are the same but for their tables, which agree. -/
structure Alike (d : Dispatcher H) (s s' : Session H) : Prop where
  host : s'.host = s.host
  clock : s'.clock = s.clock
  agree : d.Agree s.clock s.cooldowns s'.cooldowns

/-- The same became of a message, in sessions that are alike. -/
structure SameCourse (d : Dispatcher H) (x x' : Dispatched H) : Prop where
  outcome : x'.outcome = x.outcome
  entry : x'.entry = x.entry
  session : d.Alike x.session x'.session

theorem Alike.withHost (hs : d.Alike s s') (h : H.State) :
    d.Alike { s with host := h } { s' with host := h } :=
  ⟨rfl, hs.clock, hs.agree⟩

/-- A choice does the same in sessions that are alike. -/
theorem select_alike (hs : d.Alike s s') (who : H.Who) (name : String) :
    (d.select who name s').1 = (d.select who name s).1 ∧
      d.Alike (d.select who name s).2 (d.select who name s').2 := by
  constructor
  · cases hfound : d.registry.findRoot? name with
    | none => simp [select, hfound, hs.host]
    | some root =>
      obtain ⟨node, hnode, -, -⟩ := Registry.findRoot?_eq_some hfound
      by_cases hpermit : node.data.permits s.host who = true
      · have hpermit' : node.data.permits s'.host who = true := by rw [hs.host, hpermit]
        cases hwindow : node.data.cooldown with
        | none => simp [select, hfound, hnode, hpermit, hpermit', hwindow]
        | some window =>
          have hcooldown : d.registry.cooldown? root = some window := by
            rw [Registry.cooldown?, hnode, Option.bind_some, hwindow]
          have hanswer := hs.agree (H.name who, root) window s.clock hcooldown (Nat.le_refl _)
          rw [select_of_cooldown hfound hnode hpermit hwindow,
            select_of_cooldown hfound hnode hpermit' hwindow, hs.clock, hanswer]
      · have hpermit' : ¬node.data.permits s'.host who = true := by rwa [hs.host]
        simp [select, hfound, hnode, hpermit, hpermit']
  · refine ⟨?_, ?_, ?_⟩
    · rw [select_host, select_host, hs.host]
    · rw [select_clock, select_clock, hs.clock]
    · -- Each choice takes back only what has passed.
      have hleft : d.Agree s.clock s.cooldowns (d.select who name s).2.cooldowns :=
        (select_cooldowns d who name s).agree
      have hright : d.Agree s.clock s'.cooldowns (d.select who name s').2.cooldowns := by
        have hfades := (select_cooldowns d who name s').agree
        rwa [hs.clock] at hfades
      rw [select_clock]
      exact hleft.symm.trans (hs.agree.trans hright)

theorem closing_alike (hs : d.Alike s s') (root node : NodeId) (entered : Option (Entry H))
    (reply : Reply H) :
    d.SameCourse (d.closing who root node entered reply s)
      (d.closing who root node entered reply s') := by
  have houtcome : (d.closing who root node entered reply s').outcome =
      (d.closing who root node entered reply s).outcome := by
    rw [closing_outcome, closing_outcome]
  refine ⟨houtcome, ?_, ?_, ?_, ?_⟩
  · rw [closing_entry, closing_entry]
  · rw [closing_host, closing_host]
  · rw [closing_clock, closing_clock, hs.clock]
  · have hagree := hs.agree.mono (Nat.le_add_right s.clock reply.elapsed)
    rw [closing_clock, closing_cooldowns, closing_cooldowns, houtcome, hs.clock]
    split
    · exact hagree.record _ _
    · exact hagree

theorem call_alike (hs : d.Alike s s') (root node : NodeId) (handler : Handler H)
    (values : List (Value H.Who)) :
    d.SameCourse (d.call who root node handler values s)
      (d.call who root node handler values s') := by
  cases hv : H.isValid who s.host with
  | mk begins h =>
    have hv' : H.isValid who s'.host = (begins, h) := by rw [hs.host, hv]
    cases begins with
    | false =>
      rw [call_eq_gone hv, call_eq_gone hv']
      exact ⟨rfl, rfl, hs.withHost _⟩
    | true =>
      cases hk : firstMismatch? handler.params values with
      | some kind =>
        rw [call_eq_mismatch hv hk, call_eq_mismatch hv' hk]
        exact closing_alike (hs.withHost h) root node _ _
      | none =>
        rw [call_eq_entered hv hk, call_eq_entered hv' hk]
        exact closing_alike (hs.withHost h) root node _ _

theorem follow_alike (hs : d.Alike s s') (root : NodeId) (path : List NodeId)
    (args : List String) :
    d.SameCourse (d.follow who root path args s) (d.follow who root path args s') := by
  rw [follow, follow, hs.host]
  cases H.isValid who s.host with
  | mk stays h =>
    cases stays with
    | false => exact ⟨rfl, rfl, hs.withHost h⟩
    | true =>
      simp only
      cases d.registry.deepestHandler? root path with
      | none => exact ⟨rfl, rfl, hs.withHost h⟩
      | some found =>
        obtain ⟨node, handler, taken⟩ := found
        exact call_alike (hs.withHost _) root node handler _

theorem attempt_alike (hs : d.Alike s s') (name : String) (args : List String) :
    d.SameCourse (d.attempt who name args s) (d.attempt who name args s') := by
  obtain ⟨hchosen, halike⟩ := select_alike hs who name
  rw [attempt, attempt]
  cases hleft : d.select who name s with
  | mk chosen s₁ =>
    cases hright : d.select who name s' with
    | mk chosen' s₁' =>
      rw [hleft, hright] at hchosen halike
      obtain rfl : chosen' = chosen := hchosen
      have hs₁ : d.Alike s₁ s₁' := halike
      cases chosen' with
      | error failure => exact ⟨rfl, rfl, hs₁⟩
      | ok root =>
        simp only [hs₁.host]
        cases d.resolve who root args s₁.host with
        | mk resolved h =>
          cases resolved with
          | error failure => exact ⟨rfl, rfl, hs₁.withHost h⟩
          | ok path => exact follow_alike (hs₁.withHost h) root path args

/-- **The same becomes of a message in sessions that are alike**, and they stay alike. -/
theorem dispatch_alike (hs : d.Alike s s') (who : H.Who) (text : String) :
    d.SameCourse (d.dispatch who text s) (d.dispatch who text s') := by
  rw [dispatch, dispatch]
  cases d.words? text with
  | none => exact ⟨rfl, rfl, hs⟩
  | some words =>
    obtain ⟨name, args⟩ := words
    have hcourse : d.SameCourse (d.attempt who name args s) (d.attempt who name args s') :=
      attempt_alike hs name args
    obtain ⟨houtcome, hentry, hsession⟩ := hcourse
    simp only [houtcome, hsession.host]
    exact ⟨rfl, hentry, hsession.withHost _⟩

/-- **No run can tell sessions apart that are alike.** -/
theorem run_alike (hs : d.Alike s s') (history : List (Past H)) (events : List (Event H)) :
    (events.foldl d.advance ⟨s', history⟩).history =
        (events.foldl d.advance ⟨s, history⟩).history ∧
      d.Alike (events.foldl d.advance ⟨s, history⟩).session
        (events.foldl d.advance ⟨s', history⟩).session := by
  induction events generalizing s s' history with
  | nil => exact ⟨rfl, hs⟩
  | cons event events ih =>
    rw [List.foldl_cons, List.foldl_cons]
    cases event with
    | message who text =>
      have hcourse := dispatch_alike hs who text
      have hpast : d.past who text s' = d.past who text s := by
        rw [past, past, hcourse.outcome, hcourse.session.clock]
      rw [advance, advance, hpast]
      exact ih hcourse.session _
    | wait time =>
      have hwait : d.Alike (s.wait time) (s'.wait time) :=
        ⟨hs.host, congrArg (· + time) hs.clock, hs.agree.mono (Nat.le_add_right _ _)⟩
      exact ih hwait history
    | change h => exact ih (hs.withHost h) history

/-! ### Later answers -/

/-- Later answers are those of the table before the message, with the use that counts put in. -/
theorem dispatch_agree_of_counts {root : NodeId}
    (hcounts : d.Counts text (d.dispatch who text s) root) :
    d.Agree (d.dispatch who text s).session.clock
      (s.cooldowns.record (H.name who, root) (d.dispatch who text s).session.clock)
      (d.dispatch who text s).session.cooldowns := by
  obtain ⟨table, hfades, hrecorded, -⟩ := dispatch_cooldowns d who text s
  rw [hrecorded root hcounts]
  exact (hfades.agree.mono (clock_le_dispatch d who text s)).record _ _

/-- Without such a use they are those of the table before the message. -/
theorem dispatch_agree_of_not_counts
    (hnone : ∀ root, ¬d.Counts text (d.dispatch who text s) root) :
    d.Agree (d.dispatch who text s).session.clock s.cooldowns
      (d.dispatch who text s).session.cooldowns := by
  obtain ⟨table, hfades, -, hkept⟩ := dispatch_cooldowns d who text s
  rw [hkept hnone]
  exact hfades.agree.mono (clock_le_dispatch d who text s)

/-! ### Outcomes and what goes with them -/

/-- The outcome says how the handler ended. -/
structure Concluded (outcome : Outcome) (ending : Ending) : Prop where
  executed : outcome = .executed ↔ ending = .done
  softFailed : outcome = .softFailed ↔ ending = .fail
  handlerFailed : (∃ command report, outcome = .failed (.handlerFailed command report)) ↔
    (∃ e, ending = .raised e) ∨ ∃ payload, ending = .panic payload

theorem concluded_conclude (command : String) (ending : Ending) :
    Concluded (conclude command ending) ending := by
  constructor <;> cases ending <;> simp [conclude, handlerFailure]

/-- A handler that begins, and whose player is there when it has ended, determines the outcome. -/
theorem Approaches.concluded {a : Approach H} {h : H.State} (ha : d.Approaches who text s a)
    (hv : H.isValid who (d.calling who a).host = (true, h))
    (hstay : (H.isValid who (d.reply who a h).state).1 = true) :
    Concluded (d.dispatch who text s).outcome (d.reply who a h).ending := by
  have houtcome : (d.dispatch who text s).outcome =
      conclude (d.registry.describe a.node) (d.reply who a h).ending := by
    rw [ha.dispatch_eq, tell_outcome, call_eq_closing hv, closing_outcome, if_pos hstay]
  rw [houtcome]
  exact concluded_conclude _ _

/-- What is said of a message: the dispatch leaves the host to the handler, and at the end tells the
player of a failure, in its own words, and otherwise nothing. -/
structure Told (d : Dispatcher H) (who : H.Who) (s : Session H) (x : Dispatched H) : Prop where
  works : ∃ h, d.Works who x.entry s.host h ∧
    x.session.host = H.deliverAll who (notices x.outcome) h
  /-- Where all messages are kept, those of the handler are followed by those of the dispatch. -/
  kept : ∀ o : d.Outbox, ∃ sent, (x.entry = none → sent = []) ∧
    (∀ e, x.entry = some e → ∃ begun, o.read begun = o.read s.host ∧
      o.read (d.carryOut who e begun).state = o.read s.host ++ sent) ∧
    o.read x.session.host = o.read s.host ++ sent ++ (notices x.outcome).map (who, ·)
  failed : ∀ failure, x.outcome = .failed failure → notices x.outcome = failure.notices ∧
    failure.notices.length = if failure matches .malformed _ then 2 else 1
  silent : (∀ failure, x.outcome ≠ .failed failure) → notices x.outcome = []

/-- What is written down of a message: the use that counts, and nothing else that a later question
or a run that goes on from there could tell from the table before. -/
structure Booked (d : Dispatcher H) (who : H.Who) (text : String) (s : Session H)
    (x : Dispatched H) : Prop where
  table : ∃ table, d.Fades s.clock s.cooldowns table ∧
    (∀ root, d.Counts text x root →
      x.session.cooldowns = table.record (H.name who, root) x.session.clock) ∧
    ((∀ root, ¬d.Counts text x root) → x.session.cooldowns = table)
  counted : ∀ root, d.Counts text x root → d.Agree x.session.clock
    (s.cooldowns.record (H.name who, root) x.session.clock) x.session.cooldowns
  uncounted : (∀ root, ¬d.Counts text x root) →
    d.Agree x.session.clock s.cooldowns x.session.cooldowns
  /-- Every run goes on as if the table were the old one. -/
  onward : (∀ root, ¬d.Counts text x root) → ∀ (history : List (Past H)) (events : List (Event H)),
    (events.foldl d.advance ⟨x.session, history⟩).history =
      (events.foldl d.advance ⟨{ x.session with cooldowns := s.cooldowns }, history⟩).history

theorem dispatch_told (d : Dispatcher H) (who : H.Who) (text : String) (s : Session H) :
    d.Told who s (d.dispatch who text s) where
  works := dispatch_works d who text s
  kept o := o.read_dispatch who text s
  failed failure hx := by
    refine ⟨by rw [hx, notices], ?_⟩
    cases failure <;> rfl
  silent hx := by
    cases houtcome : (d.dispatch who text s).outcome with
    | failed failure => exact absurd houtcome (hx failure)
    | ignored | executed | softFailed | senderGone => rfl

theorem dispatch_booked (d : Dispatcher H) (who : H.Who) (text : String) (s : Session H) :
    d.Booked who text s (d.dispatch who text s) where
  table := dispatch_cooldowns d who text s
  counted _ hcounts := dispatch_agree_of_counts hcounts
  uncounted hnone := dispatch_agree_of_not_counts hnone
  onward hnone history events := by
    have halike : d.Alike
        { (d.dispatch who text s).session with cooldowns := s.cooldowns }
        (d.dispatch who text s).session :=
      ⟨rfl, rfl, dispatch_agree_of_not_counts hnone⟩
    exact (run_alike halike history events).1

/-- **Outcome, messages and records go together.**  The player is told of a failure, in its own
words, and of nothing else, after whatever the handler says, and nobody else is told anything.  A
handler that has come to its end while its player stayed determines the outcome.  A use is recorded
just if the command was executed and has a window; of any other message no later question, and no
run, finds a trace in the table. -/
theorem dispatch_accounted (d : Dispatcher H) (who : H.Who) (text : String) (s : Session H) :
    let x := d.dispatch who text s
    d.Told who s x ∧
      (∀ a h, d.Approaches who text s a → H.isValid who (d.calling who a).host = (true, h) →
        (H.isValid who (d.reply who a h).state).1 = true →
        Concluded x.outcome (d.reply who a h).ending) ∧
      d.Booked who text s x :=
  ⟨dispatch_told d who text s, fun _ _ ha hv hstay => ha.concluded hv hstay,
    dispatch_booked d who text s⟩

theorem deliverAll_scripted (who : String) (messages : List Message)
    (h : List Bool × List (String × Message)) :
    (Host.scripted.deliverAll who messages h).2 = h.2 ++ messages.map (who, ·) := by
  induction messages generalizing h with
  | nil => exact (List.append_nil _).symm
  | cons m messages ih =>
    have hrest : (Host.scripted.deliverAll who (m :: messages) h).2 =
        (h.2 ++ [(who, m)]) ++ messages.map (who, ·) := ih (h.1, h.2 ++ [(who, m)])
    rw [hrest, List.append_assoc, List.singleton_append, List.map_cons]

/-- All messages that the scripted surroundings have kept, where the small command is to shrug. -/
def scriptedOutbox :
    (markDispatcher Host.scripted () fun _ _ _ h => ⟨.fail, 3, h⟩).Outbox where
  read := Prod.snd
  deliver _ _ _ := rfl
  perform := by
    intro task call values h
    cases task with
    | help task => exact ⟨_, deliverAll_scripted ..⟩
    | teleport task =>
      simp only [Task.perform, TeleportTask.perform]
      split <;> exact ⟨_, deliverAll_scripted ..⟩
    | host action => exact ⟨[], (List.append_nil _).symm⟩
  find _ _ := rfl
  isValid _ _ := rfl
  accept hnode htype _ _ _ := by
    rw [custom_mark hnode htype]
    rfl

/-- Whoever names a command that does not exist is told so in two messages; whoever has marked
someone to no avail need not wait to try again. -/
theorem dispatch_accounted_mark :
    let d := markDispatcher Host.scripted () fun _ _ _ h => ⟨.fail, 3, h⟩
    let refused := d.dispatch "ann" "-mark bob mrak" (.start ([], []))
    let tried := d.dispatch "ann" "-mark bob mark" (.start ([], []))
    refused.session.host.2.map Prod.fst = ["ann", "ann"] ∧
      tried.outcome = .softFailed ∧ ∀ later, 3 ≤ later →
        (tried.session.cooldowns.remaining ("ann", 0) 5 later).1 = none := by
  intro d refused tried
  obtain ⟨hrefused, -, -⟩ := dispatch_accounted d "ann" "-mark bob mrak" (.start ([], []))
  obtain ⟨-, -, htried⟩ := dispatch_accounted d "ann" "-mark bob mark" (.start ([], []))
  refine ⟨?_, ?_⟩
  · have hentry : refused.entry.isNone = true := by decide +kernel
    have htwo : (notices refused.outcome).length = 2 := by decide +kernel
    obtain ⟨sent, hnone, -, hkept⟩ := hrefused.kept scriptedOutbox
    have hall : refused.session.host.2 = (notices refused.outcome).map ("ann", ·) := by
      rw [hnone (Option.isNone_iff_eq_none.mp hentry)] at hkept
      exact hkept
    rw [hall, List.map_map]
    exact (List.map_const' ..).trans (by rw [htwo]; rfl)
  · have hsoft : tried.outcome = .softFailed := by decide +kernel
    have hclock : tried.session.clock = 3 := by decide +kernel
    have hnone : ∀ root, ¬d.Counts "-mark bob mark" tried root :=
      fun root hcounts => by rw [hcounts.1] at hsoft; cases hsoft
    have hagree : d.Agree tried.session.clock .empty tried.session.cooldowns :=
      htried.uncounted hnone
    have hwindow : d.registry.cooldown? 0 = some 5 := by decide +kernel
    rw [hclock] at hagree
    exact ⟨hsoft, fun later hlater => (hagree ("ann", 0) 5 later hwindow hlater).symm⟩

end Dispatcher

end CommandTree
