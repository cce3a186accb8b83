import CommandTree.Proofs.Dispatch.Effects
import CommandTree.Proofs.Dispatch.History

/-!
# Players who leave

While a command is dispatched it is asked up to three times whether the player is still
there: after the words are resolved, when the handler is about to begin, and when it
has come to an end.  The answers need not have anything to do with each other, and the
handler may change them.  A player who is found gone once is told nothing more, and
nothing is recorded, whatever else has come of the command.  Failures from before the
first question are told to everyone.

## Main definitions

* `Dispatcher.reply`, `Dispatcher.joined` — what the handler of an approach leaves behind.
* `Failure.isEarly`, `Dispatcher.FailsEarly` — failures from before the first question.
* `Host.scripted` — surroundings for examples.

## Main results

* `resolved_cases` — what becomes of a message whose words are resolved.
* `outcome_eq_senderGone_iff`, `session_of_senderGone` — when a player is found gone, and what of it.
* `FailsEarly.dispatch_eq` — what becomes of an early failure.
* `dispatch_validity` — what the answers decide, and what they do not.
-/

namespace CommandTree

variable {H : Host}

/-- The failures that are found before it is asked whether the player is still there. -/
def Failure.isEarly : Failure → Bool
  | .notFound .. | .permissionDenied .. | .malformed .. | .onCooldown .. => true
  | .incomplete .. | .handlerFailed .. => false

namespace Dispatcher

variable {d : Dispatcher H} {who : H.Who} {text name : String} {args : List String}
  {s s₁ : Session H} {a : Approach H} {root node : NodeId} {path : List NodeId}
  {handler : Handler H} {values : List (Value H.Who)} {h h' : H.State}

/-! ### After a handler is chosen -/

/-- What comes of asking for the handler of an approach in the given state. -/
def invoked (d : Dispatcher H) (who : H.Who) (a : Approach H) (h : H.State) :
    Option (Entry H) × Reply H :=
  d.invoke ⟨a.node, a.handler, (d.values who a).take a.handler.params.length⟩
    ⟨who, d.registry, d.sigil, a.node⟩ (d.values who a) h

/-- What the handler of an approach leaves behind when it begins in the given state; if its values
do not suit it, that is an error. -/
def reply (d : Dispatcher H) (who : H.Who) (a : Approach H) (h : H.State) : Reply H :=
  (d.invoked who a h).2

/-- The state of the host when the handler of an approach is over: it has come to its end, or it has
not begun since the player was gone. -/
def joined (d : Dispatcher H) (who : H.Who) (a : Approach H) : H.State :=
  match H.isValid who (d.calling who a).host with
  | (false, h) => h
  | (true, h) => (d.reply who a h).state

theorem joined_of_gone (hv : H.isValid who (d.calling who a).host = (false, h)) :
    d.joined who a = h := by
  rw [joined, hv]

theorem joined_of_begun (hv : H.isValid who (d.calling who a).host = (true, h)) :
    d.joined who a = (d.reply who a h).state := by
  rw [joined, hv]

/-- A call whose handler begins is closed with its reply. -/
theorem call_eq_closing (hv : H.isValid who (d.calling who a).host = (true, h)) :
    d.call who a.root a.node a.handler (d.values who a) (d.calling who a) =
      d.closing who a.root a.node (d.invoked who a h).1 (d.reply who a h)
        { d.calling who a with host := h } := by
  rw [call, hv]
  rfl

theorem conclude_ne_senderGone (command : String) (ending : Ending) :
    conclude command ending ≠ .senderGone := by
  cases ending <;> exact nofun

theorem call_outcome_eq_senderGone_iff (d : Dispatcher H) (who : H.Who) (a : Approach H) :
    (d.call who a.root a.node a.handler (d.values who a) (d.calling who a)).outcome =
        .senderGone ↔
      (H.isValid who (d.calling who a).host).1 = false ∨
        (H.isValid who (d.joined who a)).1 = false := by
  cases hv : H.isValid who (d.calling who a).host with
  | mk begins h =>
    cases begins with
    | false =>
      rw [call_eq_gone hv]
      simp
    | true =>
      rw [call_eq_closing hv, closing_outcome, joined_of_begun hv]
      cases (H.isValid who (d.reply who a h).state).1 with
      | false => simp
      | true => simp [conclude_ne_senderGone]

/-- Nothing comes after the last question for the player. -/
theorem call_host (d : Dispatcher H) (who : H.Who) (a : Approach H) :
    (d.call who a.root a.node a.handler (d.values who a) (d.calling who a)).session.host =
      (H.isValid who (d.joined who a)).2 := by
  cases hv : H.isValid who (d.calling who a).host with
  | mk begins h =>
    cases begins with
    | false => rw [call_eq_gone hv, joined_of_gone hv]
    | true => rw [call_eq_closing hv, closing_host, joined_of_begun hv]

/-- Nothing is recorded for a player who is gone. -/
theorem call_cooldowns_of_senderGone
    (hgone : (d.call who root node handler values s).outcome = .senderGone) :
    (d.call who root node handler values s).session.cooldowns = s.cooldowns := by
  have hother : ¬((d.call who root node handler values s).outcome = .executed ∧
      (d.registry.cooldown? root).isSome) := by
    rw [hgone]
    exact nofun
  rw [call_cooldowns, if_neg hother]

/-! ### Words that are resolved -/

section Agreement

variable (hw : d.words? text = some (name, args)) (hs : d.select who name s = (.ok root, s₁))
  (hr : d.resolve who root args s₁.host = (.ok path, h))

include hw hs hr

theorem dispatch_of_resolved :
    d.dispatch who text s = tell who (d.follow who root path args { s₁ with host := h }) := by
  simp only [dispatch, hw, attempt, hs, hr]
  rfl

/-- An approach knows the command and the path that the words choose. -/
theorem Approaches.agrees (ha : d.Approaches who text s a) :
    a.name = name ∧ a.args = args ∧ a.root = root ∧ a.chosen = s₁ ∧ a.path = path ∧
      a.resolved = h := by
  have hwords := ha.words.symm.trans hw
  simp only [Option.some.injEq, Prod.mk.injEq] at hwords
  obtain ⟨hname, hargs⟩ := hwords
  have hselected := ha.selected
  rw [hname, hs] at hselected
  simp only [Prod.mk.injEq, Except.ok.injEq] at hselected
  obtain ⟨hroot, hchosen⟩ := hselected
  have hwalked := resolve_eq_ok.mpr ha.walked
  rw [← hchosen, ← hroot, hargs, hr] at hwalked
  simp only [Prod.mk.injEq, Except.ok.injEq] at hwalked
  exact ⟨hname, hargs, hroot.symm, hchosen.symm, hwalked.1.symm, hwalked.2.symm⟩

end Agreement

/-- The stages of a dispatch lead to one approach at most. -/
theorem Approaches.unique {b : Approach H} (ha : d.Approaches who text s a)
    (hb : d.Approaches who text s b) : a = b := by
  obtain ⟨hname, hargs, hroot, hchosen, hpath, hresolved⟩ :=
    ha.agrees hb.words hb.selected (resolve_eq_ok.mpr hb.walked)
  have hvalid := ha.valid
  rw [hresolved, hb.valid] at hvalid
  have hdeepest := ha.deepest
  rw [hroot, hpath, hb.deepest] at hdeepest
  simp only [Prod.mk.injEq, true_and, Option.some.injEq] at hvalid hdeepest
  obtain ⟨hnode, hhandler, htaken⟩ := hdeepest
  cases a
  cases b
  simp_all

section Resolved

variable (hw : d.words? text = some (name, args)) (hs : d.select who name s = (.ok root, s₁))
  (hr : d.resolve who root args s₁.host = (.ok path, h))

include hw hs hr

/-- What becomes of a message whose words are resolved: the player has left, or there is no handler,
or a handler is called. -/
theorem resolved_cases :
    ((H.isValid who h).1 = false ∧ d.dispatch who text s =
      tell who ⟨.senderGone, none, { s₁ with host := (H.isValid who h).2 }⟩) ∨
    ((H.isValid who h).1 = true ∧ (∀ a, ¬d.Approaches who text s a) ∧
      ∃ command, d.dispatch who text s =
        tell who ⟨.failed (.incomplete command), none, { s₁ with host := (H.isValid who h).2 }⟩) ∨
    ((H.isValid who h).1 = true ∧ ∃ a, d.Approaches who text s a ∧ a.chosen = s₁ ∧
      d.dispatch who text s =
        tell who (d.call who a.root a.node a.handler (d.values who a) (d.calling who a))) := by
  have hdispatch := dispatch_of_resolved hw hs hr
  cases hv : H.isValid who h with
  | mk stays h' =>
    cases stays with
    | false =>
      refine .inl ⟨rfl, ?_⟩
      simp only [hdispatch, follow, hv]
    | true =>
      cases hd : d.registry.deepestHandler? root path with
      | none =>
        refine .inr (.inl ⟨rfl, fun a ha => ?_, d.sigil ++ d.registry.describe
          ((path.getLast?).getD root), ?_⟩)
        · obtain ⟨-, -, hroot, -, hpath, -⟩ := ha.agrees hw hs hr
          have hdeepest := ha.deepest
          rw [hroot, hpath, hd] at hdeepest
          cases hdeepest
        · simp only [hdispatch, follow, hv, hd]
      | some found =>
        obtain ⟨node, handler, taken⟩ := found
        have ha : d.Approaches who text s
            ⟨name, args, root, s₁, path, h, h', node, handler, taken⟩ :=
          ⟨hw, hs, resolve_eq_ok.mp hr, hv, hd⟩
        exact .inr (.inr ⟨rfl, _, ha, rfl, ha.dispatch_eq⟩)

/-- The player is found gone by one of the questions, of which only the first is always asked. -/
theorem outcome_eq_senderGone_iff : (d.dispatch who text s).outcome = .senderGone ↔
    (H.isValid who h).1 = false ∨
      ∃ a, d.Approaches who text s a ∧ ((H.isValid who (d.calling who a).host).1 = false ∨
        (H.isValid who (d.joined who a)).1 = false) := by
  rcases resolved_cases hw hs hr with ⟨hv, hx⟩ | ⟨hv, hnone, command, hx⟩ | ⟨hv, a, ha, -, hx⟩
  · simp [hx, hv]
  · simp [hx, hv, hnone]
  · rw [hx, tell_outcome, call_outcome_eq_senderGone_iff, hv]
    constructor
    · exact fun hgone => .inr ⟨a, ha, hgone⟩
    · rintro (hfalse | ⟨b, hb, hgone⟩)
      · cases hfalse
      · obtain rfl : b = a := hb.unique ha
        exact hgone

/-- A handler is entered only if the player is there both times before. -/
theorem isValid_of_entry {e : Entry H} (he : (d.dispatch who text s).entry = some e) :
    (H.isValid who h).1 = true ∧
      ∃ a, d.Approaches who text s a ∧ (H.isValid who (d.calling who a).host).1 = true := by
  rcases resolved_cases hw hs hr with ⟨-, hx⟩ | ⟨-, -, command, hx⟩ | ⟨hv, a, ha, -, hx⟩
  · rw [hx] at he
    cases he
  · rw [hx] at he
    cases he
  · rw [hx, tell_entry] at he
    exact ⟨hv, a, ha, (call_entry_eq_some.mp he).1⟩

/-- Of a player who is found gone nothing is recorded, and they are told nothing. -/
theorem session_of_senderGone (hgone : (d.dispatch who text s).outcome = .senderGone) :
    (d.dispatch who text s).session.cooldowns = s₁.cooldowns ∧
      ((H.isValid who h).1 = false ∧
        (d.dispatch who text s).session.host = (H.isValid who h).2 ∨
      ∃ a, d.Approaches who text s a ∧
        (d.dispatch who text s).session.host = (H.isValid who (d.joined who a)).2) := by
  rcases resolved_cases hw hs hr with ⟨hv, hx⟩ | ⟨-, -, command, hx⟩ | ⟨-, a, ha, hchosen, hx⟩
  · rw [hx]
    exact ⟨rfl, .inl ⟨hv, rfl⟩⟩
  · rw [hx] at hgone
    cases hgone
  · rw [hx, tell_outcome] at hgone
    have hsame : (d.calling who a).cooldowns = s₁.cooldowns := by
      rw [← hchosen]
      rfl
    rw [hx, tell_cooldowns, tell_host, hgone, call_cooldowns_of_senderGone hgone, call_host]
    exact ⟨hsame, .inr ⟨a, ha, rfl⟩⟩

end Resolved

/-! ### Early failures -/

/-- The failure is found before it is asked whether the player is still there: the first word does
not choose a command that they may use now, or the others no path that they may use. -/
inductive FailsEarly (d : Dispatcher H) (who : H.Who) (name : String) (args : List String)
    (s : Session H) : Failure → Session H → Prop
  /-- No command is chosen. -/
  | choice {failure : Failure} {s₁ : Session H}
    (hs : d.select who name s = (.error failure, s₁)) : FailsEarly d who name args s failure s₁
  /-- No path is chosen. -/
  | path {root : NodeId} {failure : Failure} {s₁ : Session H} {h : H.State}
    (hs : d.select who name s = (.ok root, s₁))
    (hr : d.resolve who root args s₁.host = (.error failure, h)) :
    FailsEarly d who name args s failure { s₁ with host := h }

theorem select_isEarly {failure : Failure} (hs : d.select who name s = (.error failure, s₁)) :
    failure.isEarly = true := by
  rw [select] at hs
  repeat' split at hs
  all_goals cases hs
  all_goals rfl

theorem resolve_isEarly {failure : Failure}
    (hr : d.resolve who root args h = (.error failure, h')) : failure.isEarly = true := by
  rw [resolve] at hr
  repeat' split at hr
  all_goals cases hr
  all_goals rfl

/-- A handler that was called can only fail late. -/
theorem call_isEarly_eq_false {failure : Failure}
    (hx : (d.call who root node handler values s).outcome = .failed failure) :
    failure.isEarly = false := by
  rcases call_outcome_cases d who root node handler values s with hgone | ⟨ending, hended⟩
  · rw [hgone] at hx
    cases hx
  · rw [hended] at hx
    cases ending <;> cases hx <;> rfl

section Early

variable {failure : Failure} {s' : Session H}

theorem FailsEarly.isEarly (hf : d.FailsEarly who name args s failure s') :
    failure.isEarly = true := by
  cases hf with
  | choice hs => exact select_isEarly hs
  | path hs hr => exact resolve_isEarly hr

/-- Up to an early failure only nodes are asked, and never the player. -/
theorem FailsEarly.asked (hf : d.FailsEarly who name args s failure s') :
    d.registry.Asked s.host s'.host := by
  have hselect := select_host d who name s
  cases hf with
  | choice hs =>
    rw [hs] at hselect
    rw [hselect]
    exact .refl
  | @path root _ s₁ h hs hr =>
    rw [hs] at hselect
    have hresolve := resolve_snd d who root args s₁.host
    rw [hr] at hresolve
    change h = _ at hresolve
    change d.registry.Asked s.host h
    rw [hresolve, ← hselect]
    exact Registry.walk_asked args root s₁.host

/-- **An early failure is what becomes of the message**, and the player is told of it. -/
theorem FailsEarly.dispatch_eq (hf : d.FailsEarly who name args s failure s')
    (hw : d.words? text = some (name, args)) :
    d.dispatch who text s = tell who ⟨.failed failure, none, s'⟩ := by
  cases hf with
  | choice hs =>
    simp only [dispatch, hw, attempt, hs]
    rfl
  | path hs hr =>
    simp only [dispatch, hw, attempt, hs, hr]
    rfl

theorem exists_failsEarly (hw : d.words? text = some (name, args))
    (hx : (d.dispatch who text s).outcome = .failed failure) (hearly : failure.isEarly = true) :
    ∃ s', d.FailsEarly who name args s failure s' := by
  have hcourse := dispatch_course d who text s
  generalize d.dispatch who text s = x at hcourse hx
  cases hcourse with
  | ignored hw' => cases hx
  | refused hw' hs =>
    cases hw.symm.trans hw'
    cases hx
    exact ⟨_, .choice hs⟩
  | unresolved hw' hs hr =>
    cases hw.symm.trans hw'
    cases hx
    exact ⟨_, .path hs hr⟩
  | gone _ _ _ _ => cases hx
  | incomplete _ _ _ _ _ =>
    cases hx
    cases hearly
  | called ha =>
    rw [call_isEarly_eq_false hx] at hearly
    cases hearly

end Early

/-! ### What the answers decide -/

/-- **What becomes of a command when its player leaves.**  If the words are resolved, the player is
gone just if the first question is answered so, or, when there is a handler to call, the second or
the third is, whatever the handler does in between; it is entered only if the first two answers are
good.  To a player who is gone nothing happens after the last question, and no use is recorded.
Failures from before the first question are told as they are, and the player is not asked for. -/
theorem dispatch_validity (d : Dispatcher H) (who : H.Who) (s : Session H)
    (hw : d.words? text = some (name, args)) :
    let x := d.dispatch who text s
    (∀ root s₁ path h, d.select who name s = (.ok root, s₁) →
      d.resolve who root args s₁.host = (.ok path, h) →
      (x.outcome = .senderGone ↔ (H.isValid who h).1 = false ∨
        ∃ a, d.Approaches who text s a ∧ ((H.isValid who (d.calling who a).host).1 = false ∨
          (H.isValid who (d.joined who a)).1 = false)) ∧
      (∀ e, x.entry = some e → (H.isValid who h).1 = true ∧
        ∃ a, d.Approaches who text s a ∧ (H.isValid who (d.calling who a).host).1 = true) ∧
      (x.outcome = .senderGone → x.session.cooldowns = s₁.cooldowns ∧
        ((H.isValid who h).1 = false ∧ x.session.host = (H.isValid who h).2 ∨
          ∃ a, d.Approaches who text s a ∧
            x.session.host = (H.isValid who (d.joined who a)).2))) ∧
    (∀ failure s', d.FailsEarly who name args s failure s' →
      failure.isEarly = true ∧ d.registry.Asked s.host s'.host ∧
        x = ⟨.failed failure, none,
          { s' with host := H.deliverAll who failure.notices s'.host }⟩) ∧
    ∀ failure, x.outcome = .failed failure → failure.isEarly = true →
      ∃ s', d.FailsEarly who name args s failure s' := by
  intro x
  refine ⟨fun root s₁ path h hs hr => ⟨?_, ?_, ?_⟩, fun failure s' hf => ⟨?_, ?_, ?_⟩,
    fun failure hx hearly => ?_⟩
  · exact outcome_eq_senderGone_iff hw hs hr
  · exact fun e he => isValid_of_entry hw hs hr he
  · exact fun hgone => session_of_senderGone hw hs hr hgone
  · exact hf.isEarly
  · exact hf.asked
  · exact hf.dispatch_eq hw
  · exact exists_failsEarly hw hx hearly

end Dispatcher

/-- Surroundings in which everyone is an operator and can be found.  The state holds the answers to
come about who is still there, the same for everyone, and all messages with whom they went to. -/
abbrev Host.scripted : Host where
  Who := String
  State := List Bool × List (String × Message)
  Action := Unit
  name who := who
  isOp _ _ := true
  position _ _ := .origin
  view _ _ := .origin
  find name s := (some name, s)
  isValid _ s := (s.1.headD true, (s.1.tail, s.2))
  deliver who m s := (s.1, s.2 ++ [(who, m)])
  move? _ _ _ _ := none

namespace Dispatcher

/-- A player who is there when the handler begins, and gone when it has panicked, is told nothing
and has nothing recorded; whoever has mistyped a command is told so, there or not. -/
theorem dispatch_validity_mark :
    let d := markDispatcher Host.scripted () fun _ _ _ s => ⟨.panic .other, 3, s⟩
    let left := d.dispatch "ann" "-mark bob mark" (.start ([true, true, false], []))
    let lost := d.dispatch "ann" "-mrak bob mark" (.start ([false], []))
    (left.outcome = .senderGone ∧ left.session.cooldowns = .empty ∧ left.session.host = ([], [])) ∧
      lost.outcome = .failed (.notFound "mrak" []) ∧ lost.session.host.1 = [false] := by
  intro d left lost
  have hwords : d.words? "-mark bob mark" = some ("mark", ["bob", "mark"]) := by decide +kernel
  have hmistyped : d.words? "-mrak bob mark" = some ("mrak", ["bob", "mark"]) := by decide +kernel
  obtain ⟨hresolved, -, -⟩ := dispatch_validity d "ann" (.start ([true, true, false], [])) hwords
  obtain ⟨-, hearly, -⟩ := dispatch_validity d "ann" (.start ([false], [])) hmistyped
  refine ⟨?_, ?_⟩
  · -- The first two answers are good, so the handler was called, and the third is not.
    have hs : (d.select "ann" "mark" (.start ([true, true, false], []))).1 = .ok 0 := by
      decide +kernel
    have hr : (d.resolve "ann" 0 ["bob", "mark"]
        (d.select "ann" "mark" (.start ([true, true, false], []))).2.host).1 = .ok [1, 2] := by
      decide +kernel
    obtain ⟨-, -, hnothing⟩ := hresolved 0 _ [1, 2] _ (Prod.ext hs rfl) (Prod.ext hr rfl)
    have hgone : left.outcome = .senderGone := by decide +kernel
    obtain ⟨hcooldowns, -⟩ := hnothing hgone
    refine ⟨hgone, hcooldowns.trans ?_, ?_⟩
    · decide +kernel
    · decide +kernel
  · have hs : (d.select "ann" "mrak" (.start ([false], []))).1 = .error (.notFound "mrak" []) := by
      decide +kernel
    obtain ⟨-, -, hlost⟩ := hearly _ _ (.choice (Prod.ext hs rfl))
    have hout : lost.outcome = .failed (.notFound "mrak" []) := congrArg Dispatched.outcome hlost
    refine ⟨hout, ?_⟩
    decide +kernel

end Dispatcher

end CommandTree
