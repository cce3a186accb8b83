import CommandTree.Proofs.Dispatch.Course
import CommandTree.Proofs.Dispatch.Readings
import CommandTree.Proofs.Dispatch.Selection

/-!
# What a dispatch does to the host

A dispatch does three things to the host.  It asks questions: nodes for words, and
whether the player is still there.  It carries out the handler it enters, if it enters
one.  And at the very end it tells the player of a failure, if there was one.  In
between nothing happens to the host, so whatever else changes there is the doing of
the handler.

## Main definitions

* `Dispatcher.Queried` — the states of the host that questions lead to.
* `Dispatcher.Works` — the states that questions and the handler that is entered lead to.
* `Dispatcher.Outbox` — a record of all messages, in hosts that keep one.

## Main results

* `dispatch_works` — a dispatch asks, carries out, and tells at the end.
* `dispatch_entered` — the handler that is entered decides the outcome.
* `Outbox.read_dispatch` — the messages that a dispatch adds to the record.
-/

namespace CommandTree

variable {H : Host}

namespace Dispatcher

variable {d : Dispatcher H} {who : H.Who} {text : String} {s : Session H} {a : Approach H}
  {h h' t : H.State}

/-! ### Questions -/

/-- The state `t` comes about from `h` by questions, any number of them. -/
inductive Queried (d : Dispatcher H) (who : H.Who) (h : H.State) : H.State → Prop
  /-- No question. -/
  | refl : Queried d who h h
  /-- A node is asked for a word. -/
  | node {t : H.State} (id : NodeId) (word : String) (hq : Queried d who h t) :
    Queried d who h (d.registry.accepts id word t).2
  /-- It is asked whether the player is there. -/
  | presence {t : H.State} (hq : Queried d who h t) : Queried d who h (H.isValid who t).2

theorem Queried.trans (hq : d.Queried who h h') (hq' : d.Queried who h' t) : d.Queried who h t := by
  induction hq' with
  | refl => exact hq
  | node id word _ ih => exact .node id word ih
  | presence _ ih => exact .presence ih

theorem Queried.of_asked (ha : d.registry.Asked h t) : d.Queried who h t := by
  induction ha with
  | refl => exact .refl
  | ask id word _ ih => exact .node id word ih

/-- What every question keeps, any number of questions keep. -/
theorem Queried.invariant {P : H.State → Prop} (hq : d.Queried who h t)
    (hnode : ∀ id word t, P t → P (d.registry.accepts id word t).2)
    (hpresence : ∀ t, P t → P (H.isValid who t).2) (hP : P h) : P t := by
  induction hq with
  | refl => exact hP
  | node id word _ ih => exact hnode id word _ ih
  | presence _ ih => exact hpresence _ ih

/-- Whatever can be read off the host, and is not changed by looking for players, asking whether
they are there, or asking the types of the host, is not changed by questions. -/
theorem Queried.read_eq {R : Type} {read : H.State → R} (hq : d.Queried who h t)
    (hfind : ∀ name h, read (H.find name h).2 = read h)
    (hpresence : ∀ who h, read (H.isValid who h).2 = read h)
    (haccept : ∀ {id : NodeId} {node : Node H} {type : CustomType H},
      d.registry.node? id = some node → node.argument.type = .custom type →
      ∀ commands word h, read (type.accept commands word h).2 = read h) : read t = read h := by
  refine hq.invariant (P := fun t => read t = read h) (fun id word t ht => ?_)
    (fun t ht => (hpresence who t).trans ht) rfl
  rw [← ht]
  cases hnode : d.registry.node? id with
  | none => rw [Registry.accepts, hnode]
  | some node =>
    rw [Registry.accepts_eq hnode, Argument.accept]
    -- Only players and types of the host look at the state at all.
    cases htype : node.argument.type with
    | player => exact hfind word t
    | custom type => exact haccept hnode htype _ word t
    | literal => rfl
    | string => rfl
    | integer bounds => rfl
    | boolean => rfl
    | choice options => rfl
    | axis => rfl

theorem queried_select {name : String} {chosen : Except Failure NodeId} {s₁ : Session H}
    (hs : d.select who name s = (chosen, s₁)) : d.Queried who s.host s₁.host := by
  have hhost := select_host d who name s
  rw [hs] at hhost
  rw [hhost]
  exact .refl

theorem queried_resolve {root : NodeId} {args : List String}
    {resolved : Except Failure (List NodeId)} (hr : d.resolve who root args h = (resolved, t)) :
    d.Queried who h t := by
  have ht : t = (d.registry.walk who root args h).2 := by
    rw [← resolve_snd d who root args h, hr]
  rw [ht]
  exact .of_asked (Registry.walk_asked args root h)

theorem queried_presence {stays : Bool} (hv : H.isValid who h = (stays, t)) :
    d.Queried who h t := by
  have hq : d.Queried who h (H.isValid who h).2 := .presence .refl
  rwa [hv] at hq

/-- All that comes before a handler is called is questions. -/
theorem Approaches.queried (ha : d.Approaches who text s a) :
    d.Queried who s.host (d.calling who a).host := by
  have hchosen : d.Queried who s.host a.chosen.host := queried_select ha.selected
  have hresolved : d.Queried who a.chosen.host a.resolved :=
    queried_resolve (resolve_eq_ok.mpr ha.walked)
  have hhost : d.Queried who a.resolved a.host := queried_presence ha.valid
  have hread : d.Queried who a.host (d.calling who a).host :=
    .of_asked (Registry.readings_asked a.taken a.args a.host)
  exact hchosen.trans (hresolved.trans (hhost.trans hread))

/-! ### The handler -/

/-- The reply of a handler that is entered. -/
def carryOut (d : Dispatcher H) (who : H.Who) (e : Entry H) (h : H.State) : Reply H :=
  e.handler.task.perform d.program ⟨who, d.registry, d.sigil, e.node⟩ e.values h

/-- The state `h'` comes about from `h` by questions, and by the handler that is entered. -/
def Works (d : Dispatcher H) (who : H.Who) (entry : Option (Entry H)) (h h' : H.State) : Prop :=
  match entry with
  | none => d.Queried who h h'
  | some e => ∃ begun, d.Queried who h begun ∧ d.Queried who (d.carryOut who e begun).state h'

theorem Works.after {entry : Option (Entry H)} (hq : d.Queried who h t)
    (hw : d.Works who entry t h') : d.Works who entry h h' := by
  cases entry with
  | none => exact hq.trans hw
  | some e =>
    obtain ⟨begun, hbegun, hended⟩ := hw
    exact ⟨begun, hq.trans hbegun, hended⟩

theorem call_works (d : Dispatcher H) (who : H.Who) (root node : NodeId) (handler : Handler H)
    (values : List (Value H.Who)) (s : Session H) :
    d.Works who (d.call who root node handler values s).entry s.host
      (d.call who root node handler values s).session.host := by
  have hcall := call_course d who root node handler values s
  generalize d.call who root node handler values s = x at hcall ⊢
  cases hcall with
  | gone hv =>
    have hq : d.Queried who s.host _ := queried_presence hv
    exact hq.presence
  | mismatch hv hk =>
    have hq : d.Queried who s.host _ := queried_presence hv
    rw [closing_entry, closing_host]
    exact hq.presence
  | @entered h hv hk =>
    have hq : d.Queried who s.host h := queried_presence hv
    rw [closing_entry, closing_host]
    exact ⟨h, hq, .presence .refl⟩

/-- **What a dispatch does to the host**: it asks questions, carries out the handler that it enters,
and at the end tells the player of the outcome. -/
theorem dispatch_works (d : Dispatcher H) (who : H.Who) (text : String) (s : Session H) :
    ∃ h, d.Works who (d.dispatch who text s).entry s.host h ∧
      (d.dispatch who text s).session.host =
        H.deliverAll who (notices (d.dispatch who text s).outcome) h := by
  have hcourse := dispatch_course d who text s
  generalize d.dispatch who text s = x at hcourse ⊢
  cases hcourse with
  | ignored hw => exact ⟨s.host, .refl, rfl⟩
  | @refused name args failure s₁ hw hs => exact ⟨s₁.host, queried_select hs, rfl⟩
  | @unresolved name args root s₁ failure h hw hs hr =>
    have hchosen : d.Queried who s.host s₁.host := queried_select hs
    exact ⟨h, hchosen.trans (queried_resolve hr), rfl⟩
  | @gone name args root s₁ path h h' hw hs hr hv =>
    have hchosen : d.Queried who s.host s₁.host := queried_select hs
    have hresolved : d.Queried who s₁.host h := queried_resolve (resolve_eq_ok.mpr hr)
    exact ⟨h', hchosen.trans (hresolved.trans (queried_presence hv)), rfl⟩
  | @incomplete name args root s₁ path h h' hw hs hr hv hd =>
    have hchosen : d.Queried who s.host s₁.host := queried_select hs
    have hresolved : d.Queried who s₁.host h := queried_resolve (resolve_eq_ok.mpr hr)
    exact ⟨h', hchosen.trans (hresolved.trans (queried_presence hv)), rfl⟩
  | @called a ha =>
    have hcall := call_works d who a.root a.node a.handler (d.values who a) (d.calling who a)
    exact ⟨_, hcall.after ha.queried, rfl⟩

/-- **What becomes of a handler that is entered**: only questions come before it, and a last one comes
after it; the outcome is how it ended, unless the player is gone by then. -/
theorem dispatch_entered {e : Entry H} (he : (d.dispatch who text s).entry = some e) :
    ∃ begun, d.Queried who s.host begun ∧
      (d.dispatch who text s).outcome =
        (if (H.isValid who (d.carryOut who e begun).state).1 then
          conclude (d.registry.describe e.node) (d.carryOut who e begun).ending
        else .senderGone) ∧
      (d.dispatch who text s).session.host =
        H.deliverAll who (notices (d.dispatch who text s).outcome)
          (H.isValid who (d.carryOut who e begun).state).2 := by
  obtain ⟨a, ha, hv, hk, rfl⟩ := entry_eq_some he
  have hbegun : H.isValid who (d.calling who a).host =
      (true, (H.isValid who (d.calling who a).host).2) := Prod.ext hv rfl
  refine ⟨(H.isValid who (d.calling who a).host).2, ha.queried.presence, ?_⟩
  rw [ha.dispatch_eq, call_eq_entered hbegun hk, tell_outcome, tell_host, closing_outcome,
    closing_host]
  exact ⟨rfl, rfl⟩

/-! ### Messages -/

/-- A record of all messages ever sent, oldest first, which questions leave alone and handlers can
only add to. -/
structure Outbox (d : Dispatcher H) where
  /-- The messages, each with whom it was sent to. -/
  read : H.State → List (H.Who × Message)
  /-- A message is put at the end. -/
  deliver : ∀ who m h, read (H.deliver who m h) = read h ++ [(who, m)]
  /-- A task can send messages of its own. -/
  perform : ∀ (task : Task H.Action) call values h,
    ∃ sent, read (task.perform d.program call values h).state = read h ++ sent
  /-- Looking for a player sends nothing. -/
  find : ∀ name h, read (H.find name h).2 = read h
  /-- Asking whether a player is there sends nothing. -/
  isValid : ∀ who h, read (H.isValid who h).2 = read h
  /-- Asking a type of the host for a word sends nothing. -/
  accept : ∀ {id : NodeId} {node : Node H} {type : CustomType H},
    d.registry.node? id = some node → node.argument.type = .custom type →
    ∀ commands word h, read (type.accept commands word h).2 = read h

namespace Outbox

variable (o : d.Outbox)

theorem read_deliverAll (who : H.Who) (messages : List Message) (h : H.State) :
    o.read (H.deliverAll who messages h) = o.read h ++ messages.map (who, ·) := by
  induction messages generalizing h with
  | nil => exact (List.append_nil _).symm
  | cons m messages ih =>
    calc o.read (H.deliverAll who (m :: messages) h)
        = o.read (H.deliver who m h) ++ messages.map (who, ·) := ih _
      _ = o.read h ++ (m :: messages).map (who, ·) := by
          rw [o.deliver, List.append_assoc, List.singleton_append, List.map_cons]

theorem read_queried (hq : d.Queried who h t) : o.read t = o.read h :=
  hq.read_eq o.find o.isValid o.accept

/-- **The messages that a dispatch sends** are those of the handler that it enters, and after them
those that tell the player of the outcome. -/
theorem read_dispatch (who : H.Who) (text : String) (s : Session H) :
    ∃ sent, ((d.dispatch who text s).entry = none → sent = []) ∧
      (∀ e, (d.dispatch who text s).entry = some e → ∃ begun, o.read begun = o.read s.host ∧
        o.read (d.carryOut who e begun).state = o.read s.host ++ sent) ∧
      o.read (d.dispatch who text s).session.host =
        o.read s.host ++ sent ++ (notices (d.dispatch who text s).outcome).map (who, ·) := by
  obtain ⟨h, hworks, hhost⟩ := dispatch_works d who text s
  rw [hhost, o.read_deliverAll]
  cases hentry : (d.dispatch who text s).entry with
  | none =>
    rw [hentry] at hworks
    exact ⟨[], fun _ => rfl, nofun, by rw [o.read_queried hworks, List.append_nil]⟩
  | some e =>
    rw [hentry] at hworks
    obtain ⟨begun, hbegun, hended⟩ := hworks
    have hstart : o.read begun = o.read s.host := o.read_queried hbegun
    obtain ⟨sent, hsent⟩ := o.perform e.handler.task ⟨who, d.registry, d.sigil, e.node⟩ e.values
      begun
    have hend : o.read (d.carryOut who e begun).state = o.read s.host ++ sent := by
      rw [carryOut, hsent, hstart]
    refine ⟨sent, nofun, ?_, ?_⟩
    · rintro _ ⟨⟩
      exact ⟨begun, hstart, hend⟩
    · rw [o.read_queried hended, hend]

end Outbox

end Dispatcher

end CommandTree
