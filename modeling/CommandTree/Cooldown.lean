import CommandTree.Registry.Basic

/-!
# Cooldowns

A command with a cooldown cannot be used again by a player of the same name until
its window has passed.  The table remembers when each command was last used; a
question that finds its window passed forgets the entry.

## Main definitions

* `Cooldowns` — the table.
* `Cooldowns.record` — a use of a command.
* `Cooldowns.remaining` — how long a player still has to wait.
-/

namespace CommandTree

/-- What a cooldown is counted for: the name of a player and a command. -/
abbrev CooldownKey := String × NodeId

/-- The time of the last use of each command by each player. -/
structure Cooldowns where
  /-- The entries; no key occurs twice. -/
  entries : List (CooldownKey × Span)
  deriving DecidableEq, Repr

namespace Cooldowns

/-- The table without entries. -/
def empty : Cooldowns := ⟨[]⟩

/-- The number of entries. -/
def size (t : Cooldowns) : Nat := t.entries.length

/-- The time of the last use under a key. -/
def lastUse? (t : Cooldowns) (key : CooldownKey) : Option Span := t.entries.lookup key

/-- The table without an entry under a key. -/
def erase (t : Cooldowns) (key : CooldownKey) : Cooldowns := ⟨t.entries.filter (·.1 != key)⟩

/-- The table after a use at the time `now`. -/
def record (t : Cooldowns) (key : CooldownKey) (now : Span) : Cooldowns :=
  ⟨(key, now) :: (t.erase key).entries⟩

/-- How long a player still has to wait at the time `now` for a window of the given length since
the last use; an entry whose window has passed is dropped. -/
def remaining (t : Cooldowns) (key : CooldownKey) (window now : Span) : Option Span × Cooldowns :=
  match t.lastUse? key with
  | none => (none, t)
  | some last =>
    if now - last < window then (some (window - (now - last)), t) else (none, t.erase key)

end Cooldowns

end CommandTree
