import CommandTree.Dispatch
import CommandTree.Proofs.Cooldown
import CommandTree.Proofs.Registry.Schema

/-!
# The choice of a command

The first word of a message chooses a command.  Whether the player may use it is
asked next, then whether they have to wait.  The choice leaves everything as it is,
but for one thing: a use whose window has passed is forgotten.

## Main definitions

* `Registry.cooldown?` — how long a player waits between uses of a command.
* `Dispatcher.Selected` — a command that a player may use now.
* `Dispatcher.Fades` — a table from which only what has passed is gone.

## Main results

* `findRoot?_eq_some` — what is known of the command a name reaches.
* `select_eq_ok`, `select_of_cooldown` — when a command may be used, and when not yet.
* `select_cooldowns` — what the choice does to the table of last uses.
-/

namespace CommandTree

variable {H : Host}

namespace Registry

variable {r : Registry H} {root : NodeId} {name : String}

/-- How long a player waits between uses of a command, if they have to. -/
def cooldown? (r : Registry H) (root : NodeId) : Option Span :=
  (r.node? root).bind (·.data.cooldown)

/-- **The command that a name reaches** is a root, and the name is one of its names. -/
theorem findRoot?_eq_some (h : r.findRoot? name = some root) :
    ∃ node, r.node? root = some node ∧ node.depth = 0 ∧ name ∈ node.data.names := by
  have hroot := (List.mem_filter.mp (List.mem_of_find?_eq_some h)).2
  have hname := List.find?_some h
  simp only [isRoot, answersTo] at hroot hname
  cases hnode : r.node? root with
  | none => rw [hnode] at hroot; cases hroot
  | some node =>
    rw [hnode] at hroot hname
    exact ⟨node, rfl, by simpa using hroot, by simpa using hname⟩

/-- The path to the command that a name reaches is the command, and it contributes no value. -/
theorem path_findRoot? (hr : r.WellFormed) (h : r.findRoot? name = some root) :
    r.path root = [root] ∧ r.valueKind? root = none := by
  obtain ⟨node, hnode, hdepth, -⟩ := findRoot?_eq_some h
  have hparent := hr.parent_eq_none hnode hdepth
  exact ⟨path_root hnode hparent, valueKind?_root hr hnode hparent⟩

end Registry

namespace Dispatcher

variable {d : Dispatcher H} {who : H.Who} {name : String} {s s' : Session H} {root : NodeId}

/-- A name reaches a command, and the player may use it now. -/
structure Selected (d : Dispatcher H) (who : H.Who) (name : String) (s : Session H)
    (root : NodeId) (node : Node H) : Prop where
  /-- The name reaches the command. -/
  found : d.registry.findRoot? name = some root
  /-- The command is this node. -/
  stands : d.registry.node? root = some node
  /-- The player may use it. -/
  permitted : node.data.permits s.host who = true
  /-- If there is a window between uses, it does not run for a player of that name. -/
  rested : ∀ window last, node.data.cooldown = some window →
    s.cooldowns.lastUse? (H.name who, root) = some last → window ≤ s.clock - last

/-- **What a choice is made by** for a command with a window between uses. -/
theorem select_of_cooldown {node : Node H} {window : Span}
    (hfound : d.registry.findRoot? name = some root) (hnode : d.registry.node? root = some node)
    (hpermit : node.data.permits s.host who = true) (hwindow : node.data.cooldown = some window) :
    d.select who name s =
      (match (s.cooldowns.remaining (H.name who, root) window s.clock).1 with
        | some left => .error (.onCooldown node.data.name left)
        | none => .ok root,
        { s with cooldowns := (s.cooldowns.remaining (H.name who, root) window s.clock).2 }) := by
  rw [select, hfound]
  simp only [hnode, hpermit, hwindow, if_true]
  cases hremaining : s.cooldowns.remaining (H.name who, root) window s.clock with
  | mk left table => cases left <;> rfl

/-- **A command that is chosen may be used by the player now.** -/
theorem select_eq_ok (h : d.select who name s = (.ok root, s')) :
    ∃ node, d.Selected who name s root node := by
  rw [select] at h
  cases hfound : d.registry.findRoot? name with
  | none => simp [hfound] at h
  | some found =>
    obtain ⟨node, hnode, -, -⟩ := Registry.findRoot?_eq_some hfound
    simp only [hfound, hnode] at h
    by_cases hpermit : node.data.permits s.host who = true
    · simp only [hpermit, if_true] at h
      cases hwindow : node.data.cooldown with
      | none =>
        simp only [hwindow, Prod.mk.injEq, Except.ok.injEq] at h
        obtain ⟨rfl, -⟩ := h
        exact ⟨node, hfound, hnode, hpermit, by simp [hwindow]⟩
      | some window =>
        have hremaining := Cooldowns.remaining_fst s.cooldowns (H.name who, found) window s.clock
        cases hr : s.cooldowns.remaining (H.name who, found) window s.clock with
        | mk left table =>
          cases left with
          | some left => simp [hwindow, hr] at h
          | none =>
            -- The table has no rest of the window, so a last use is at least the window ago.
            simp only [hwindow, hr, Prod.mk.injEq, Except.ok.injEq] at h
            obtain ⟨rfl, -⟩ := h
            refine ⟨node, hfound, hnode, hpermit, fun w last hw hlast => ?_⟩
            rw [hwindow, Option.some.injEq] at hw
            subst hw
            rw [hr, hlast, Option.bind_some] at hremaining
            by_contra hrun
            rw [if_pos (Nat.lt_of_not_le hrun)] at hremaining
            cases hremaining
    · rw [if_neg hpermit] at h
      cases h

/-- A choice does nothing to the host. -/
theorem select_host (d : Dispatcher H) (who : H.Who) (name : String) (s : Session H) :
    (d.select who name s).2.host = s.host := by
  rw [select]
  repeat' split
  all_goals rfl

/-- A choice takes no time. -/
theorem select_clock (d : Dispatcher H) (who : H.Who) (name : String) (s : Session H) :
    (d.select who name s).2.clock = s.clock := by
  rw [select]
  repeat' split
  all_goals rfl

/-- Each answer of the table stays as it is, or it is taken back after its window has passed. -/
def Fades (d : Dispatcher H) (now : Span) (before after : Cooldowns) : Prop :=
  ∀ key, after.lastUse? key = before.lastUse? key ∨
    (after.lastUse? key = none ∧ ∃ window last, d.registry.cooldown? key.2 = some window ∧
      before.lastUse? key = some last ∧ window ≤ now - last)

/-- **What a choice does to the table of last uses**: nothing but to take back what has passed. -/
theorem select_cooldowns (d : Dispatcher H) (who : H.Who) (name : String) (s : Session H) :
    d.Fades s.clock s.cooldowns (d.select who name s).2.cooldowns := by
  intro key
  cases hfound : d.registry.findRoot? name with
  | none => left; simp [select, hfound]
  | some root =>
    obtain ⟨node, hnode, -, -⟩ := Registry.findRoot?_eq_some hfound
    by_cases hpermit : node.data.permits s.host who = true
    · cases hwindow : node.data.cooldown with
      | none => left; simp [select, hfound, hnode, hpermit, hwindow]
      | some window =>
        rw [select_of_cooldown hfound hnode hpermit hwindow]
        simp only [Cooldowns.lastUse?_remaining]
        -- Only the entry that was asked for can be gone.
        by_cases hkey : key = (H.name who, root)
        · subst hkey
          simp only [if_true]
          cases hlast : s.cooldowns.lastUse? (H.name who, root) with
          | none => left; rfl
          | some last =>
            by_cases hrun : s.clock - last < window
            · left; simp [Option.filter_some, hrun]
            · right
              refine ⟨by simp [Option.filter_some, hrun], window, last, ?_, rfl,
                Nat.le_of_not_lt hrun⟩
              rw [Registry.cooldown?, hnode, Option.bind_some, hwindow]
        · left; rw [if_neg hkey]
    · left; simp [select, hfound, hnode, hpermit]

end Dispatcher

end CommandTree
