import CommandTree.World
import Mathlib.Data.List.Basic
import Mathlib.Data.String.Basic

/-!
# What happens in a world

Players come online at their place in the order of names, get messages and are moved.
When everyone has read their messages, those of each player stand together, in the order
in which they were sent.

## Main definitions

* `World.names`, `World.Ordered`, `World.Quiet` — who is online; each once and in order;
  with nothing left to read.
* `World.inbox?`, `World.pose?` — what can be seen of a player.
* `World.Change`, `World.changed` — messages and moves, and the world after several.
* `Grouped` — messages by recipient.

## Main results

* `inbox?_changed`, `pose?_changed` — what changes do, and what they leave alone.
* `grouped_drain` — in which order messages are read.
-/

namespace CommandTree

/-- What is found under a key after the values have changed. -/
theorem lookup_map {A B : Type} (f : String → A → B) (name : String) (l : List (String × A)) :
    (l.map fun (other, a) => (other, f other a)).lookup name = (l.lookup name).map (f name) := by
  induction l with
  | nil => rfl
  | cons p l ih =>
    obtain ⟨other, a⟩ := p
    rw [List.map_cons, List.lookup_cons, List.lookup_cons]
    by_cases h : name = other
    · rw [h, beq_self_eq_true]
      rfl
    · rw [beq_false_of_ne h]
      exact ih

namespace World

variable {w : World} {name other : String}

/-! ### What can be seen -/

/-- The names of those who are online. -/
def names (w : World) : List String := w.players.map Prod.fst

/-- The names are in order, and nobody is there twice. -/
def Ordered (w : World) : Prop := w.names.Pairwise (· < ·)

/-- Everyone has read their messages. -/
def Quiet (w : World) : Prop := ∀ p ∈ w.players, p.2.inbox = []

/-- The messages that a player has not read. -/
def inbox? (w : World) (name : String) : Option (List Message) := (w.get? name).map Player.inbox

/-- Where a player is and where they look. -/
def pose? (w : World) (name : String) : Option Pose := (w.get? name).map Player.pose

theorem isOnline_iff : w.isOnline name = true ↔ name ∈ w.names := by
  rw [isOnline, get?, List.lookup_isSome_iff]
  simp [names]

theorem isOnline_congr {v : World} (h : v.names = w.names) : v.isOnline name = w.isOnline name := by
  rw [Bool.eq_iff_iff, isOnline_iff, isOnline_iff, h]

theorem inbox?_eq_none (h : ¬w.isOnline name = true) : w.inbox? name = none := by
  rw [isOnline, Option.isSome_iff_ne_none, not_not] at h
  rw [inbox?, h, Option.map_none]

theorem Ordered.nodup (hw : w.Ordered) : w.names.Nodup := hw.imp ne_of_lt

/-! ### Coming online -/

theorem ordered_empty : empty.Ordered := List.Pairwise.nil

theorem quiet_empty : empty.Quiet := fun p hp => absurd hp (List.not_mem_nil (a := p))

theorem mem_insertPlayer {player : Player} {q : String × Player} {l : List (String × Player)}
    (h : q ∈ insertPlayer name player l) : q = (name, player) ∨ q ∈ l := by
  induction l with
  | nil => exact .inl (List.mem_singleton.mp h)
  | cons p l ih =>
    rw [insertPlayer] at h
    split at h
    · exact (List.mem_cons.mp h)
    · split at h
      · exact (List.mem_cons.mp h).imp id (List.mem_cons_of_mem p)
      · rcases List.mem_cons.mp h with rfl | h
        · exact .inr List.mem_cons_self
        · exact (ih h).imp id (List.mem_cons_of_mem p)

/-- Those who were online still are, and so is the new player. -/
theorem names_insertPlayer {player : Player} {l : List (String × Player)} :
    other ∈ (insertPlayer name player l).map Prod.fst ↔ other = name ∨ other ∈ l.map Prod.fst := by
  induction l with
  | nil => simp [insertPlayer]
  | cons p l ih =>
    rw [insertPlayer]
    split
    · simp
    · split
      · next heq => simp [heq]
      · rw [List.map_cons, List.mem_cons, ih, List.map_cons, List.mem_cons, or_left_comm]

theorem isOnline_join {isOp : Bool} :
    (w.join name isOp).isOnline other = true ↔ other = name ∨ w.isOnline other = true := by
  rw [isOnline_iff, isOnline_iff]
  exact names_insertPlayer

/-- A player comes online at their place. -/
theorem Ordered.join (hw : w.Ordered) (name : String) (isOp : Bool) :
    (w.join name isOp).Ordered := by
  obtain ⟨l⟩ := w
  change ((insertPlayer name _ l).map Prod.fst).Pairwise (· < ·)
  change (l.map Prod.fst).Pairwise (· < ·) at hw
  induction l with
  | nil => exact List.pairwise_singleton _ _
  | cons p l ih =>
    obtain ⟨first, q⟩ := p
    rw [List.map_cons, List.pairwise_cons] at hw
    obtain ⟨hfirst, hrest⟩ := hw
    rw [insertPlayer]
    split
    · next hlt =>
      have hall : ∀ n ∈ l.map Prod.fst, name < n := fun n hn => lt_trans hlt (hfirst n hn)
      exact List.pairwise_cons.mpr
        ⟨List.forall_mem_cons.mpr ⟨hlt, hall⟩, List.pairwise_cons.mpr ⟨hfirst, hrest⟩⟩
    · next hlt =>
      split
      · next heq => exact List.pairwise_cons.mpr ⟨heq ▸ hfirst, hrest⟩
      · next hne =>
        have hgt : first < name := lt_of_le_of_ne (not_lt.mp hlt) (Ne.symm hne)
        refine List.pairwise_cons.mpr ⟨fun n hn => ?_, ih hrest⟩
        rcases names_insertPlayer.mp hn with rfl | hn
        · exact hgt
        · exact hfirst n hn

theorem Quiet.join (hw : w.Quiet) (name : String) (isOp : Bool) : (w.join name isOp).Quiet := by
  intro p hp
  rcases mem_insertPlayer hp with rfl | hp
  · rfl
  · exact hw p hp

/-! ### Changes -/

/-- What can happen to a player. -/
inductive Change where
  /-- They get a message. -/
  | message (name : String) (m : Message)
  /-- They are moved. -/
  | move (name : String) (target : Point) (o : Orientation)

/-- The world after a change. -/
def Change.apply (w : World) : Change → World
  | message name m => w.send name m
  | move name target o => w.teleport name target o

/-- The message that a change consists in, with the name of its recipient. -/
def Change.message? : Change → Option (String × Message)
  | message name m => some (name, m)
  | move .. => none

/-- The world after several changes. -/
def changed (w : World) (changes : List Change) : World := changes.foldl Change.apply w

/-- The messages among several changes. -/
def messages (changes : List Change) : List (String × Message) :=
  changes.filterMap Change.message?

theorem changed_append (w : World) (changes later : List Change) :
    w.changed (changes ++ later) = (w.changed changes).changed later := List.foldl_append

theorem messages_append (changes later : List Change) :
    messages (changes ++ later) = messages changes ++ messages later := List.filterMap_append

theorem get?_modify (w : World) (name : String) (f : Player → Player) (other : String) :
    (w.modify name f).get? other =
      (w.get? other).map fun p => if other = name then f p else p :=
  lookup_map (fun other p => if other = name then f p else p) other w.players

theorem get?_modify_self (w : World) (name : String) (f : Player → Player) :
    (w.modify name f).get? name = (w.get? name).map f := by
  simp [get?_modify]

theorem get?_modify_of_ne (h : other ≠ name) (w : World) (f : Player → Player) :
    (w.modify name f).get? other = w.get? other := by
  simp [get?_modify, h]

/-- What a change of a player leaves alone is the same for everyone. -/
theorem map_get?_modify {R : Type} {read : Player → R} {f : Player → Player}
    (h : ∀ p, read (f p) = read p) (w : World) (name other : String) :
    ((w.modify name f).get? other).map read = (w.get? other).map read := by
  by_cases hname : other = name
  · have hread : read ∘ f = read := funext h
    rw [hname, get?_modify_self, Option.map_map, hread]
  · rw [get?_modify_of_ne hname]

@[simp] theorem names_modify (w : World) (name : String) (f : Player → Player) :
    (w.modify name f).names = w.names := by
  rw [names, modify, List.map_map]
  rfl

@[simp] theorem names_changed (w : World) (changes : List Change) :
    (w.changed changes).names = w.names := by
  induction changes generalizing w with
  | nil => rfl
  | cons c changes ih =>
    refine (ih _).trans ?_
    cases c <;> exact names_modify ..

/-- What is seen of a player after changes of everyone, if no single change makes a difference. -/
theorem map_get?_changed {R : Type} (read : Player → R) (changes : List Change)
    (h : ∀ c ∈ changes, ∀ w : World, ((c.apply w).get? name).map read = (w.get? name).map read)
    (w : World) : ((w.changed changes).get? name).map read = (w.get? name).map read := by
  induction changes generalizing w with
  | nil => rfl
  | cons c changes ih =>
    obtain ⟨hc, hchanges⟩ := List.forall_mem_cons.mp h
    exact (ih hchanges _).trans (hc w)

theorem pose?_changed (w : World) {changes : List Change}
    (h : ∀ target o, Change.move name target o ∉ changes) :
    (w.changed changes).pose? name = w.pose? name := by
  refine map_get?_changed Player.pose changes (fun c hc w => ?_) w
  cases c with
  | message other m => exact map_get?_modify (fun _ => by rfl) w other name
  | move other target o =>
    have hne : name ≠ other := by
      rintro rfl
      exact h target o hc
    rw [Change.apply, teleport, get?_modify_of_ne hne]

/-- The messages for one player. -/
def sentTo (name : String) (sent : List (String × Message)) : List Message :=
  (sent.filter (·.1 = name)).map Prod.snd

theorem map_sentTo (name : String) (sent : List (String × Message)) :
    (sentTo name sent).map (name, ·) = sent.filter (·.1 = name) := by
  rw [sentTo, List.map_map]
  refine (List.map_congr_left fun q hq => ?_).trans (List.map_id _)
  have hname : q.1 = name := by simpa using (List.mem_filter.mp hq).2
  rw [← hname]
  rfl

theorem sentTo_append (name : String) (sent later : List (String × Message)) :
    sentTo name (sent ++ later) = sentTo name sent ++ sentTo name later := by
  rw [sentTo, List.filter_append, List.map_append, sentTo, sentTo]

theorem inbox?_apply (w : World) (c : Change) (name : String) :
    (c.apply w).inbox? name = (w.inbox? name).map (· ++ sentTo name (messages [c])) := by
  cases c with
  | message other m =>
    by_cases h : name = other
    · rw [Change.apply, inbox?, send, h, get?_modify_self, inbox?, Option.map_map, Option.map_map]
      congr 1
      funext p
      simp [messages, Change.message?, sentTo]
    · have hnone : sentTo name (messages [.message other m]) = [] := by
        simp [messages, Change.message?, sentTo, Ne.symm h]
      simp [Change.apply, inbox?, send, get?_modify_of_ne h, hnone, Function.comp_def]
  | move other target o =>
    have hread : (w.teleport other target o).inbox? name = w.inbox? name :=
      map_get?_modify (fun _ => by rfl) w other name
    have hnone : messages [.move other target o] = [] := rfl
    simp [Change.apply, hread, hnone, sentTo]

/-- A player gets the messages for them, in the order in which they are sent. -/
theorem inbox?_changed (w : World) (changes : List Change) (name : String) :
    (w.changed changes).inbox? name =
      (w.inbox? name).map (· ++ sentTo name (messages changes)) := by
  induction changes generalizing w with
  | nil => simp [changed, messages, sentTo]
  | cons c changes ih =>
    have hmessages : messages (c :: changes) = messages [c] ++ messages changes :=
      messages_append [c] changes
    calc (w.changed (c :: changes)).inbox? name
        = ((c.apply w).inbox? name).map (· ++ sentTo name (messages changes)) := ih _
      _ = (w.inbox? name).map (· ++ sentTo name (messages (c :: changes))) := by
          rw [inbox?_apply, Option.map_map, hmessages, sentTo_append]
          congr 1
          funext inbox
          exact List.append_assoc _ _ _

/-! ### Reading -/

theorem get?_drain (w : World) (name : String) :
    w.drain.2.get? name = (w.get? name).map fun p => { p with inbox := [] } :=
  lookup_map (fun _ (p : Player) => Player.mk p.isOp p.pose []) name w.players

@[simp] theorem names_drain (w : World) : w.drain.2.names = w.names := by
  rw [names, drain, List.map_map]
  rfl

theorem pose?_drain (w : World) (name : String) : w.drain.2.pose? name = w.pose? name := by
  rw [pose?, get?_drain, Option.map_map]
  rfl

theorem quiet_drain (w : World) : w.drain.2.Quiet := by
  intro p hp
  obtain ⟨q, -, rfl⟩ := List.mem_map.mp hp
  rfl

theorem Quiet.drain_eq (hw : w.Quiet) : w.drain.1 = [] := by
  rw [drain, List.flatMap_eq_nil_iff]
  intro p hp
  have hinbox := hw p hp
  obtain ⟨name, q⟩ := p
  simpa using hinbox

/-- Those of the messages that are for one player are the messages in their inbox. -/
theorem filter_drain (hw : w.Ordered) (name : String) :
    w.drain.1.filter (·.1 = name) = ((w.inbox? name).getD []).map (name, ·) := by
  obtain ⟨l⟩ := w
  have hnodup : (l.map Prod.fst).Nodup := hw.nodup
  clear hw
  simp only [drain, inbox?, get?]
  induction l with
  | nil => rfl
  | cons p l ih =>
    obtain ⟨other, q⟩ := p
    rw [List.map_cons, List.nodup_cons] at hnodup
    rw [List.flatMap_cons, List.filter_append, ih hnodup.2, List.lookup_cons]
    by_cases h : name = other
    · -- The names are distinct, so nothing further on is for the same player.
      have hlookup : l.lookup name = none := by
        rw [List.lookup_eq_none_iff]
        intro r hr
        rw [bne_iff_ne, h]
        intro heq
        exact hnodup.1 (List.mem_map.mpr ⟨r, hr, heq.symm⟩)
      simp [h ▸ hlookup, h]
    · have h' : ¬other = name := fun e => h e.symm
      simp [h', beq_false_of_ne h]

theorem sorted_drain (hw : w.Ordered) : w.drain.1.Pairwise (·.1 ≤ ·.1) := by
  refine List.pairwise_flatMap.mpr ⟨fun p _ => ?_, ?_⟩
  · exact List.pairwise_map.mpr (List.pairwise_of_forall fun _ _ => le_refl _)
  · have hplayers : w.players.Pairwise (·.1 < ·.1) := List.pairwise_map.mp hw
    refine hplayers.imp fun hlt x hx y hy => ?_
    obtain ⟨m, -, rfl⟩ := List.mem_map.mp hx
    obtain ⟨n, -, rfl⟩ := List.mem_map.mp hy
    exact le_of_lt hlt

end World

open World

/-- Messages by recipient: the same messages, in the order of the recipients' names, and those of
each recipient in the order in which they were sent. -/
structure Grouped (sent shown : List (String × Message)) : Prop where
  /-- Each message is there just as often. -/
  perm : shown.Perm sent
  /-- The names are in order. -/
  sorted : shown.Pairwise (·.1 ≤ ·.1)
  /-- The messages of one recipient are in order. -/
  order : ∀ name, shown.filter (·.1 = name) = sent.filter (·.1 = name)

/-- Nothing is lost if nobody loses anything. -/
theorem Grouped.of_order {sent shown : List (String × Message)}
    (hsorted : shown.Pairwise (·.1 ≤ ·.1))
    (horder : ∀ name, shown.filter (·.1 = name) = sent.filter (·.1 = name)) :
    Grouped sent shown where
  perm := by
    refine List.perm_iff_count.mpr fun q => ?_
    have hq : ∀ l : List (String × Message), (l.filter (·.1 = q.1)).count q = l.count q :=
      fun l => List.count_filter (by simp)
    rw [← hq shown, horder, hq]
  sorted := hsorted
  order := horder

/-- **After messages and moves everyone reads, by recipient, what was there before and what was sent
to those who are online.** -/
theorem World.grouped_drain {w : World} (hw : w.Ordered) (changes : List Change) :
    Grouped (w.drain.1 ++ (messages changes).filter (w.isOnline ·.1))
      (w.changed changes).drain.1 := by
  have hchanged : (w.changed changes).Ordered := by
    rw [Ordered, names_changed]
    exact hw
  refine .of_order (sorted_drain hchanged) fun name => ?_
  rw [filter_drain hchanged, inbox?_changed, List.filter_append, filter_drain hw]
  -- What is sent to someone who is not online is lost on both sides.
  by_cases h : w.isOnline name = true
  · have hsent : ((messages changes).filter (w.isOnline ·.1)).filter (·.1 = name) =
        (messages changes).filter (·.1 = name) := by
      rw [List.filter_filter]
      refine List.filter_congr fun q _ => ?_
      by_cases hq : q.1 = name
      · simp [hq, h]
      · simp [hq]
    obtain ⟨p, hp⟩ := Option.isSome_iff_exists.mp h
    rw [hsent, ← map_sentTo, inbox?, hp, Option.map_some, Option.map_some, Option.getD_some,
      Option.getD_some, List.map_append]
  · have hsent : ((messages changes).filter (w.isOnline ·.1)).filter (·.1 = name) = [] := by
      rw [List.filter_filter, List.filter_eq_nil_iff]
      intro q _ hq
      obtain ⟨hname, honline⟩ := Bool.and_eq_true_iff.mp hq
      exact h (of_decide_eq_true hname ▸ honline)
    rw [hsent, inbox?_eq_none h]
    rfl

end CommandTree
