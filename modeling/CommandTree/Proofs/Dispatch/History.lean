import CommandTree.Proofs.Dispatch.Course
import CommandTree.Proofs.Dispatch.Selection

/-!
# Cooldowns over a run

The table of last uses says who has to wait, but it is not the history: it forgets
entries when it is asked about them, and knows nothing of commands that came to
nothing.  Over a run of messages and pauses the two agree nevertheless.  What the
table remembers is the last use in the history, and what it has forgotten of a
command with a window no longer matters.  So whether a command is refused, and for
how long, can be read off the history alone.

## Main definitions

* `Event`, `Dispatcher.run` — runs, with the record of each message.
* `lastExecuted` — the time of the last use in a history.
* `Dispatcher.Counts` — a message whose use is recorded.
* `Dispatcher.Tracks` — the table agrees with the history.

## Main results

* `dispatch_cooldowns`, `dispatch_lastUse?` — what a dispatch does to the table.
* `Tracks.message`, `tracks_run` — agreement is kept by a message and by a run.
* `run_onCooldown_iff` — when a command is refused in a run, and for how long.
-/

namespace CommandTree

variable {H : Host}

/-! ### Runs -/

/-- What happens in a run. -/
inductive Event (H : Host) where
  /-- A player sends a message. -/
  | message (who : H.Who) (text : String)
  /-- Time passes. -/
  | wait (t : Span)
  /-- Something else happens that leaves the host in another state. -/
  | change (h : H.State)

/-- What is remembered of a message. -/
structure Past (H : Host) where
  /-- The player who sent it. -/
  who : H.Who
  /-- The command that its first word chose, under whichever of its names. -/
  root : Option NodeId
  /-- What became of it. -/
  outcome : Outcome
  /-- The time when it was over. -/
  time : Span

/-- The record is that of a use of the command by a player of the given name. -/
def Past.isUse (p : Past H) (name : String) (root : NodeId) : Bool :=
  H.name p.who = name ∧ p.root = some root ∧ p.outcome = .executed

/-- The time of the last use of a command in a history, which has the newest record first. -/
def lastExecuted (history : List (Past H)) (name : String) (root : NodeId) : Option Span :=
  (history.find? (·.isUse name root)).map Past.time

theorem lastExecuted_cons (p : Past H) (history : List (Past H)) (name : String) (root : NodeId) :
    lastExecuted (p :: history) name root =
      if p.isUse name root then some p.time else lastExecuted history name root := by
  rw [lastExecuted, List.find?_cons]
  cases p.isUse name root <;> rfl

/-- A point in a run. -/
structure Moment (H : Host) where
  /-- The session. -/
  session : Session H
  /-- The messages so far, the newest first. -/
  history : List (Past H)

namespace Dispatcher

/-- The command that the first word of a message chooses. -/
def root? (d : Dispatcher H) (text : String) : Option NodeId :=
  (d.words? text).bind fun words => d.registry.findRoot? words.1

/-- What is remembered of a message that is sent in a session. -/
def past (d : Dispatcher H) (who : H.Who) (text : String) (s : Session H) : Past H :=
  ⟨who, d.root? text, (d.dispatch who text s).outcome, (d.dispatch who text s).session.clock⟩

/-- A run goes on by one event. -/
def advance (d : Dispatcher H) (m : Moment H) : Event H → Moment H
  | .message who text =>
    ⟨(d.dispatch who text m.session).session, d.past who text m.session :: m.history⟩
  | .wait t => { m with session := m.session.wait t }
  | .change h => { m with session := { m.session with host := h } }

/-- A run of a fresh dispatcher. -/
def run (d : Dispatcher H) (h : H.State) (events : List (Event H)) : Moment H :=
  events.foldl d.advance ⟨.start h, []⟩

variable {d : Dispatcher H} {who : H.Who} {text : String} {s : Session H}

/-! ### What a dispatch does to the table -/

theorem clock_le_call (d : Dispatcher H) (who : H.Who) (root node : NodeId) (handler : Handler H)
    (values : List (Value H.Who)) (s : Session H) :
    s.clock ≤ (d.call who root node handler values s).session.clock := by
  have hcall := call_course d who root node handler values s
  generalize d.call who root node handler values s = x at hcall ⊢
  cases hcall with
  | gone hv => exact Nat.le_refl _
  | mismatch hv hk => rw [closing_clock]; exact Nat.le_add_right _ _
  | entered hv hk => rw [closing_clock]; exact Nat.le_add_right _ _

/-- A call records a use just if the command was executed and has a window, at the time when it is
over. -/
theorem call_cooldowns (d : Dispatcher H) (who : H.Who) (root node : NodeId) (handler : Handler H)
    (values : List (Value H.Who)) (s : Session H) :
    (d.call who root node handler values s).session.cooldowns =
      if (d.call who root node handler values s).outcome = .executed ∧
        (d.registry.cooldown? root).isSome then
        s.cooldowns.record (H.name who, root)
          (d.call who root node handler values s).session.clock
      else s.cooldowns := by
  have hcall := call_course d who root node handler values s
  generalize d.call who root node handler values s = x at hcall ⊢
  cases hcall with
  | gone hv => exact (if_neg fun hx => nomatch hx.1).symm
  | mismatch hv hk => rw [closing_clock, closing_cooldowns]; rfl
  | entered hv hk => rw [closing_clock, closing_cooldowns]; rfl

/-- A dispatch calls a handler, or it takes no time and records nothing. -/
theorem dispatch_still_or_called (d : Dispatcher H) (who : H.Who) (text : String) (s : Session H) :
    ((d.dispatch who text s).outcome ≠ .executed ∧
      (d.dispatch who text s).session.clock = s.clock ∧
      d.Fades s.clock s.cooldowns (d.dispatch who text s).session.cooldowns) ∨
    ∃ a, d.Approaches who text s a ∧ d.dispatch who text s =
      tell who (d.call who a.root a.node a.handler (d.values who a) (d.calling who a)) := by
  have hcourse := dispatch_course d who text s
  generalize d.dispatch who text s = x at hcourse ⊢
  have hselect : ∀ {name chosen s₁}, d.select who name s = (chosen, s₁) →
      s₁.clock = s.clock ∧ d.Fades s.clock s.cooldowns s₁.cooldowns := by
    intro name chosen s₁ hs
    have hclock := select_clock d who name s
    have hfades := select_cooldowns d who name s
    rw [hs] at hclock hfades
    exact ⟨hclock, hfades⟩
  cases hcourse with
  | called ha => exact .inr ⟨_, ha, rfl⟩
  | ignored hw => exact .inl ⟨nofun, rfl, fun _ => .inl rfl⟩
  | refused hw hs => have h := hselect hs; exact .inl ⟨nofun, h.1, h.2⟩
  | unresolved hw hs hr => have h := hselect hs; exact .inl ⟨nofun, h.1, h.2⟩
  | gone hw hs hr hv => have h := hselect hs; exact .inl ⟨nofun, h.1, h.2⟩
  | incomplete hw hs hr hv hd => have h := hselect hs; exact .inl ⟨nofun, h.1, h.2⟩

theorem clock_le_dispatch (d : Dispatcher H) (who : H.Who) (text : String) (s : Session H) :
    s.clock ≤ (d.dispatch who text s).session.clock := by
  rcases dispatch_still_or_called d who text s with ⟨-, hclock, -⟩ | ⟨a, ha, heq⟩
  · exact Nat.le_of_eq hclock.symm
  · have hclock := select_clock d who a.name s
    rw [ha.selected] at hclock
    have hcall : a.chosen.clock ≤ (d.call who a.root a.node a.handler (d.values who a)
      (d.calling who a)).session.clock :=
      clock_le_call d who a.root a.node a.handler (d.values who a) (d.calling who a)
    rw [heq, tell_clock, ← hclock]
    exact hcall

/-- The record of a message is that of a use just if its first word has chosen the command and it
was executed, and its player has the name. -/
theorem isUse_past {key : CooldownKey} : (d.past who text s).isUse key.1 key.2 = true ↔
    H.name who = key.1 ∧ d.root? text = some key.2 ∧
      (d.dispatch who text s).outcome = .executed :=
  decide_eq_true_iff

theorem Approaches.root? {a : Approach H} (ha : d.Approaches who text s a) :
    d.root? text = some a.root := by
  obtain ⟨node, hselected⟩ := select_eq_ok ha.selected
  rw [Dispatcher.root?, ha.words, Option.bind_some, hselected.found]

/-- The message is one whose use of the command is recorded. -/
def Counts (d : Dispatcher H) (text : String) (x : Dispatched H) (root : NodeId) : Prop :=
  x.outcome = .executed ∧ d.root? text = some root ∧ (d.registry.cooldown? root).isSome

/-- **What a dispatch writes down**: after taking back what has passed, the use that counts, if
there is one. -/
theorem dispatch_cooldowns (d : Dispatcher H) (who : H.Who) (text : String) (s : Session H) :
    let x := d.dispatch who text s
    ∃ table, d.Fades s.clock s.cooldowns table ∧
      (∀ root, d.Counts text x root →
        x.session.cooldowns = table.record (H.name who, root) x.session.clock) ∧
      ((∀ root, ¬d.Counts text x root) → x.session.cooldowns = table) := by
  intro x
  rcases dispatch_still_or_called d who text s with ⟨hother, -, hfades⟩ | ⟨a, ha, heq⟩
  · exact ⟨x.session.cooldowns, hfades, fun root hcounts => absurd hcounts.1 hother, fun _ => rfl⟩
  · have hfades := select_cooldowns d who a.name s
    rw [ha.selected] at hfades
    have hroot := ha.root?
    have hcall := call_cooldowns d who a.root a.node a.handler (d.values who a) (d.calling who a)
    have hx : x = tell who (d.call who a.root a.node a.handler (d.values who a)
      (d.calling who a)) := heq
    refine ⟨a.chosen.cooldowns, hfades, fun root hcounts => ?_, fun hnone => ?_⟩
    · obtain ⟨hexecuted, hchosen, hcooldown⟩ := hcounts
      obtain rfl : a.root = root := Option.some.inj (hroot.symm.trans hchosen)
      rw [hx, tell_outcome] at hexecuted
      rw [hx, tell_cooldowns, tell_clock, hcall, if_pos ⟨hexecuted, hcooldown⟩]
      rfl
    · have hother : ¬((d.call who a.root a.node a.handler (d.values who a)
          (d.calling who a)).outcome = .executed ∧ (d.registry.cooldown? a.root).isSome) := by
        rintro ⟨hexecuted, hcooldown⟩
        exact hnone a.root ⟨by rw [hx, tell_outcome, hexecuted], hroot, hcooldown⟩
      rw [hx, tell_cooldowns, hcall, if_neg hother]
      rfl

/-- **What a dispatch does to the answers of the table**: it may take back those that have passed,
and that for the use that counts is its time. -/
theorem dispatch_lastUse? (d : Dispatcher H) (who : H.Who) (text : String) (s : Session H) :
    ∃ table, d.Fades s.clock s.cooldowns table ∧
      ∀ key, (d.dispatch who text s).session.cooldowns.lastUse? key =
        if (d.past who text s).isUse key.1 key.2 = true ∧ (d.registry.cooldown? key.2).isSome then
          some (d.dispatch who text s).session.clock
        else table.lastUse? key := by
  obtain ⟨table, hfades, hrecorded, hkept⟩ := dispatch_cooldowns d who text s
  refine ⟨table, hfades, fun key => ?_⟩
  by_cases hcounts : ∃ root, d.Counts text (d.dispatch who text s) root
  · obtain ⟨root, hroot⟩ := hcounts
    obtain ⟨hexecuted, hchosen, hcooldown⟩ := hroot
    rw [hrecorded root ⟨hexecuted, hchosen, hcooldown⟩, Cooldowns.lastUse?_record]
    by_cases hkey : key = (H.name who, root)
    · subst hkey
      have huse : (d.past who text s).isUse (H.name who) root = true :=
        decide_eq_true ⟨rfl, hchosen, hexecuted⟩
      rw [if_pos rfl, if_pos ⟨huse, hcooldown⟩]
    · have hother : ¬(d.past who text s).isUse key.1 key.2 = true := by
        intro huse
        obtain ⟨hname, hchosen', -⟩ := isUse_past.mp huse
        have hroot : key.2 = root := Option.some.inj (hchosen'.symm.trans hchosen)
        exact hkey (Prod.ext hname.symm hroot)
      rw [if_neg hkey, if_neg fun h => hother h.1]
  · rw [hkept (not_exists.mp hcounts), if_neg]
    rintro ⟨huse, hcooldown⟩
    obtain ⟨-, hchosen, hexecuted⟩ := isUse_past.mp huse
    exact hcounts ⟨key.2, hexecuted, hchosen, hcooldown⟩

/-! ### The table and the history -/

/-- The table agrees with the history. -/
structure Tracks (d : Dispatcher H) (m : Moment H) : Prop where
  /-- What the table remembers is the last use of a command with a window. -/
  remembered : ∀ key t, m.session.cooldowns.lastUse? key = some t →
    (d.registry.cooldown? key.2).isSome ∧ lastExecuted m.history key.1 key.2 = some t
  /-- What it has forgotten is over. -/
  forgotten : ∀ key t window, m.session.cooldowns.lastUse? key = none →
    d.registry.cooldown? key.2 = some window → lastExecuted m.history key.1 key.2 = some t →
    window ≤ m.session.clock - t
  /-- The history is in the past. -/
  past : ∀ p ∈ m.history, p.time ≤ m.session.clock

/-- A fresh dispatcher has no history. -/
theorem tracks_start (d : Dispatcher H) (h : H.State) : d.Tracks ⟨.start h, []⟩ where
  remembered key t ht := by rw [Session.start, Cooldowns.lastUse?_empty] at ht; cases ht
  forgotten _ _ _ _ _ ht := nomatch ht
  past _ hp := nomatch hp

variable {m : Moment H}

/-- What the table remembers after a message is the last use. -/
theorem Tracks.remembered_dispatch (hm : d.Tracks m) {key : CooldownKey} {t : Span}
    (ht : (d.dispatch who text m.session).session.cooldowns.lastUse? key = some t) :
    (d.registry.cooldown? key.2).isSome ∧
      lastExecuted (d.past who text m.session :: m.history) key.1 key.2 = some t := by
  obtain ⟨table, hfades, htable⟩ := dispatch_lastUse? d who text m.session
  rw [htable] at ht
  split at ht
  · next huse =>
    refine ⟨huse.2, ?_⟩
    rw [lastExecuted_cons, if_pos huse.1]
    exact ht
  · next hother =>
    rcases hfades key with hkept | ⟨hgone, -⟩
    · -- The entry is an old one, and no use was added to the history for it.
      obtain ⟨hsome, hlast⟩ := hm.remembered key t (hkept.symm.trans ht)
      refine ⟨hsome, ?_⟩
      rw [lastExecuted_cons, if_neg fun huse => hother ⟨huse, hsome⟩, hlast]
    · rw [hgone] at ht
      cases ht

/-- What it has forgotten after a message is over. -/
theorem Tracks.forgotten_dispatch (hm : d.Tracks m) {key : CooldownKey} {t window : Span}
    (hnone : (d.dispatch who text m.session).session.cooldowns.lastUse? key = none)
    (hwindow : d.registry.cooldown? key.2 = some window)
    (hlast : lastExecuted (d.past who text m.session :: m.history) key.1 key.2 = some t) :
    window ≤ (d.dispatch who text m.session).session.clock - t := by
  obtain ⟨table, hfades, htable⟩ := dispatch_lastUse? d who text m.session
  have hclock := clock_le_dispatch d who text m.session
  rw [htable] at hnone
  split at hnone
  · cases hnone
  · next hother =>
    have hsome : (d.registry.cooldown? key.2).isSome := by rw [hwindow]; rfl
    rw [lastExecuted_cons, if_neg fun huse => hother ⟨huse, hsome⟩] at hlast
    -- Either it was forgotten before, or just now because its window has passed.
    have hover : window ≤ m.session.clock - t := by
      rcases hfades key with hkept | ⟨-, window', last, hwindow', hbefore, hover⟩
      · exact hm.forgotten key t window (hkept.symm.trans hnone) hwindow hlast
      · have hsame := (hm.remembered key last hbefore).2
        rw [hlast, Option.some.injEq] at hsame
        rw [hwindow, Option.some.injEq] at hwindow'
        rw [hsame, hwindow']
        exact hover
    exact Nat.le_trans hover (Nat.sub_le_sub_right hclock t)

/-- **A message keeps the agreement.** -/
theorem Tracks.message (hm : d.Tracks m) (who : H.Who) (text : String) :
    d.Tracks (d.advance m (.message who text)) := by
  refine ⟨fun key t ht => hm.remembered_dispatch ht,
    fun key t window hnone hwindow hlast => hm.forgotten_dispatch hnone hwindow hlast, ?_⟩
  intro p hp
  rcases List.mem_cons.mp hp with rfl | hp
  · exact Nat.le_refl _
  · exact Nat.le_trans (hm.past p hp) (clock_le_dispatch d who text m.session)

/-- So does every event. -/
theorem Tracks.advance (hm : d.Tracks m) (event : Event H) : d.Tracks (d.advance m event) := by
  cases event with
  | message who text => exact hm.message who text
  | change h => exact ⟨hm.remembered, hm.forgotten, hm.past⟩
  | wait t =>
    have hclock : m.session.clock ≤ (m.session.wait t).clock := Nat.le_add_right _ _
    refine ⟨hm.remembered, fun key last window hnone hwindow hlast => ?_, fun p hp => ?_⟩
    · have hover := hm.forgotten key last window hnone hwindow hlast
      exact Nat.le_trans hover (Nat.sub_le_sub_right hclock last)
    · exact Nat.le_trans (hm.past p hp) hclock

/-- **After every run the table agrees with the history.** -/
theorem tracks_run (d : Dispatcher H) (h : H.State) (events : List (Event H)) :
    d.Tracks (d.run h events) := by
  -- Whatever moment a run goes on from, agreement there is agreement at the end.
  have keep : ∀ m, d.Tracks m → d.Tracks (events.foldl d.advance m) := by
    induction events with
    | nil => exact fun m hm => hm
    | cons event events ih => exact fun m hm => ih _ (hm.advance event)
  exact keep _ (tracks_start d h)

/-! ### Refusals -/

/-- A command that was called is not refused for having been used too recently. -/
theorem call_ne_onCooldown (d : Dispatcher H) (who : H.Who) (root node : NodeId)
    (handler : Handler H) (values : List (Value H.Who)) (s : Session H) (command : String)
    (left : Span) :
    (d.call who root node handler values s).outcome ≠ .failed (.onCooldown command left) := by
  rcases call_outcome_cases d who root node handler values s with hx | ⟨ending, hx⟩
  · rw [hx]
    exact nofun
  · rw [hx]
    cases ending <;> exact nofun

theorem resolve_ne_onCooldown {root : NodeId} {args : List String} {h h' : H.State}
    {failure : Failure} (hr : d.resolve who root args h = (.error failure, h')) (command : String)
    (left : Span) : failure ≠ .onCooldown command left := by
  rintro rfl
  rw [resolve] at hr
  split at hr
  · cases hr
  · cases hr
  · split at hr <;> cases hr

/-- A message is refused for having been sent too recently just if the choice of its command is,
and then no handler is entered. -/
theorem outcome_onCooldown_iff {command : String} {left : Span} :
    (d.dispatch who text s).outcome = .failed (.onCooldown command left) ↔
      ∃ name args, d.words? text = some (name, args) ∧
        (d.select who name s).1 = .error (.onCooldown command left) := by
  have hcourse := dispatch_course d who text s
  generalize d.dispatch who text s = x at hcourse ⊢
  cases hcourse with
  | ignored hw => simp [hw]
  | refused hw hs => simp [hw, hs]
  | unresolved hw hs hr => simp [hw, hs, resolve_ne_onCooldown hr command left]
  | gone hw hs hr hv => simp [hw, hs]
  | incomplete hw hs hr hv hd => simp [hw, hs]
  | @called a ha => simp [ha.words, ha.selected, call_ne_onCooldown]

theorem entry_eq_none_of_onCooldown {command : String} {left : Span}
    (h : (d.dispatch who text s).outcome = .failed (.onCooldown command left)) :
    (d.dispatch who text s).entry = none := by
  rcases hentry : (d.dispatch who text s).entry with _ | e
  · rfl
  · obtain ⟨a, ha, -, -, -⟩ := entry_eq_some hentry
    rw [ha.dispatch_eq, tell_outcome] at h
    exact absurd h (call_ne_onCooldown _ _ _ _ _ _ _ _ _)

/-- The choice of a command with a window refuses the player just if its window runs. -/
theorem select_onCooldown_iff {name : String} {root : NodeId} {node : Node H} {window : Span}
    (hfound : d.registry.findRoot? name = some root) (hnode : d.registry.node? root = some node)
    (hpermit : node.data.permits s.host who = true) (hwindow : node.data.cooldown = some window)
    {command : String} {left : Span} :
    (d.select who name s).1 = .error (.onCooldown command left) ↔
      command = node.data.name ∧ ∃ t, s.cooldowns.lastUse? (H.name who, root) = some t ∧
        s.clock - t < window ∧ left = window - (s.clock - t) := by
  have hremaining := Cooldowns.remaining_fst s.cooldowns (H.name who, root) window s.clock
  rw [select_of_cooldown hfound hnode hpermit hwindow, hremaining]
  cases hlast : s.cooldowns.lastUse? (H.name who, root) with
  | none => simp
  | some last =>
    by_cases hrun : s.clock - last < window
    · simp [hrun, eq_comm]
    · simp [hrun]

/-- **A command with a window is refused in a run just if the last use of it by a player of that
name, as the history has it, is not yet a window ago, and then for the rest of the window.**  No
handler is entered then, and a window of no length never refuses anyone. -/
theorem run_onCooldown_iff (d : Dispatcher H) (h : H.State) (events : List (Event H))
    (who : H.Who) {text name : String} {args : List String} {root : NodeId} {node : Node H}
    {window : Span} (hwords : d.words? text = some (name, args))
    (hfound : d.registry.findRoot? name = some root) (hnode : d.registry.node? root = some node)
    (hpermit : node.data.permits (d.run h events).session.host who = true)
    (hwindow : node.data.cooldown = some window) :
    let now := (d.run h events).session.clock
    let lastUse := lastExecuted (d.run h events).history (H.name who) root
    let x := d.dispatch who text (d.run h events).session
    (∀ command left, x.outcome = .failed (.onCooldown command left) ↔
      command = node.data.name ∧
        ∃ t, lastUse = some t ∧ now - t < window ∧ left = window - (now - t)) ∧
    (∀ t, lastUse = some t → t ≤ now) ∧
    (∀ command left, x.outcome = .failed (.onCooldown command left) →
      0 < left ∧ left ≤ window ∧ x.entry = none) ∧
    (window = 0 → ∀ command left, x.outcome ≠ .failed (.onCooldown command left)) := by
  intro now lastUse x
  have htracks := tracks_run d h events
  have hcooldown : d.registry.cooldown? root = some window := by
    rw [Registry.cooldown?, hnode, Option.bind_some, hwindow]
  -- As long as the window runs, the table and the history know the same last use.
  have hsame : ∀ t, now - t < window →
      ((d.run h events).session.cooldowns.lastUse? (H.name who, root) = some t ↔
        lastUse = some t) := by
    intro t hrun
    constructor
    · exact fun ht => (htracks.remembered _ t ht).2
    · intro ht
      cases hlast : (d.run h events).session.cooldowns.lastUse? (H.name who, root) with
      | none => exact absurd hrun (Nat.not_lt.mpr (htracks.forgotten _ t window hlast hcooldown ht))
      | some last => rw [← ht]; exact (htracks.remembered _ last hlast).2.symm
  have hiff : ∀ command left, x.outcome = .failed (.onCooldown command left) ↔
      command = node.data.name ∧
        ∃ t, lastUse = some t ∧ now - t < window ∧ left = window - (now - t) := by
    intro command left
    have hchoice : x.outcome = .failed (.onCooldown command left) ↔
        (d.select who name (d.run h events).session).1 = .error (.onCooldown command left) := by
      rw [outcome_onCooldown_iff]
      simp only [hwords, Option.some.injEq, Prod.mk.injEq]
      constructor
      · rintro ⟨_, _, ⟨rfl, rfl⟩, hselect⟩
        exact hselect
      · exact fun hselect => ⟨name, args, ⟨rfl, rfl⟩, hselect⟩
    rw [hchoice, select_onCooldown_iff hfound hnode hpermit hwindow]
    refine and_congr_right fun _ => exists_congr fun t => and_congr_left fun hrun => hsame t hrun.1
  refine ⟨hiff, ?_, ?_, ?_⟩
  · intro t ht
    obtain ⟨p, hp, rfl⟩ := Option.map_eq_some_iff.mp ht
    exact htracks.past p (List.mem_of_find?_eq_some hp)
  · intro command left hx
    obtain ⟨-, t, -, hrun, rfl⟩ := (hiff command left).mp hx
    exact ⟨Nat.sub_pos_of_lt hrun, Nat.sub_le _ _, entry_eq_none_of_onCooldown hx⟩
  · rintro rfl command left hx
    obtain ⟨-, t, -, hrun, -⟩ := (hiff command left).mp hx
    exact absurd hrun (Nat.not_lt_zero _)

/-- Two ticks after a player has marked someone, they have to wait for another three; an alias does
not help, and what others have tried in between does not matter. -/
theorem run_onCooldown_iff_mark :
    let d := markDispatcher (Host.still Unit) () fun _ _ _ s => ⟨.done, 3, s⟩
    let m := d.run () [.message "ann" "-mark bob mark", .message "cas" "-mark ann m", .wait 2]
    (d.dispatch "ann" "-m bob mark" m.session).outcome = .failed (.onCooldown "mark" 3) := by
  intro d m
  have hwords : d.words? "-m bob mark" = some ("m", ["bob", "mark"]) := by decide +kernel
  have hfound : d.registry.findRoot? "m" = some 0 := by decide +kernel
  obtain ⟨node, hnode, -, -⟩ := Registry.findRoot?_eq_some hfound
  have hdata : (d.registry.node? 0).map (fun node =>
      (node.data.name, node.data.permits m.session.host "ann", node.data.cooldown)) =
      some ("mark", true, some 5) := by
    decide +kernel
  rw [hnode, Option.map_some, Option.some.injEq, Prod.mk.injEq, Prod.mk.injEq] at hdata
  obtain ⟨hname, hpermit, hwindow⟩ := hdata
  obtain ⟨hiff, -, -, -⟩ := run_onCooldown_iff d () [.message "ann" "-mark bob mark",
    .message "cas" "-mark ann m", .wait 2] "ann" hwords hfound hnode hpermit hwindow
  refine (hiff "mark" 3).mpr ⟨hname.symm, 3, ?_, ?_, ?_⟩
  · decide +kernel
  · decide +kernel
  · decide +kernel

end Dispatcher

end CommandTree
