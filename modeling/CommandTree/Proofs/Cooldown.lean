import CommandTree.Cooldown

/-!
# The table of last uses

The table is known by what it answers for each key.  A use sets the answer for its
own key, and a question takes back an answer whose window has passed; nothing else
ever changes an answer.

## Main results

* `lastUse?_record` — the answers after a use.
* `remaining_fst` — what a question answers: the rest of a window that still runs.
* `lastUse?_remaining` — the answers after a question.
-/

namespace CommandTree

namespace Cooldowns

@[simp] theorem lastUse?_empty (key : CooldownKey) : empty.lastUse? key = none := rfl

/-- Dropping a key takes back its answer and no other. -/
theorem lastUse?_erase (t : Cooldowns) (key other : CooldownKey) :
    (t.erase key).lastUse? other = if other = key then none else t.lastUse? other := by
  obtain ⟨entries⟩ := t
  simp only [lastUse?, erase]
  induction entries with
  | nil => simp
  | cons entry entries ih =>
    obtain ⟨k, time⟩ := entry
    by_cases hk : k = key
    · -- The entry goes; it could only have answered for the dropped key.
      subst hk
      rw [List.filter_cons_of_neg (by simp), ih]
      by_cases ho : other = k
      · simp [ho]
      · simp [ho, List.lookup_cons, beq_false_of_ne ho]
    · rw [List.filter_cons_of_pos (by simp [hk]), List.lookup_cons, List.lookup_cons, ih]
      by_cases ho : other = k
      · subst ho
        simp [hk]
      · simp [beq_false_of_ne ho]

/-- **The answers after a use**: the time of the use for its own key, the old one for any other. -/
theorem lastUse?_record (t : Cooldowns) (key other : CooldownKey) (now : Span) :
    (t.record key now).lastUse? other = if other = key then some now else t.lastUse? other := by
  have herase := lastUse?_erase t key other
  simp only [lastUse?] at herase
  simp only [lastUse?, record, List.lookup_cons, herase]
  by_cases ho : other = key
  · simp [ho]
  · simp [ho, beq_false_of_ne ho]

/-- **A question answers with the rest of the window**, as long as it runs. -/
theorem remaining_fst (t : Cooldowns) (key : CooldownKey) (window now : Span) :
    (t.remaining key window now).1 = (t.lastUse? key).bind fun last =>
      if now - last < window then some (window - (now - last)) else none := by
  rw [remaining]
  cases t.lastUse? key with
  | none => rfl
  | some last =>
    simp only [Option.bind_some]
    split <;> rfl

/-- **The answers after a question**: its own key has none any more if the window has passed. -/
theorem lastUse?_remaining (t : Cooldowns) (key other : CooldownKey) (window now : Span) :
    (t.remaining key window now).2.lastUse? other =
      if other = key then (t.lastUse? key).filter fun last => decide (now - last < window)
      else t.lastUse? other := by
  rw [remaining]
  cases hlast : t.lastUse? key with
  | none =>
    by_cases ho : other = key
    · simp [ho, hlast]
    · simp [ho]
  | some last =>
    by_cases hrun : now - last < window
    · simp only [hrun, if_true, Option.filter_some, decide_true]
      by_cases ho : other = key
      · rw [if_pos ho, ho, hlast]
      · rw [if_neg ho]
    · simp only [hrun, if_false, Option.filter_some, decide_false, Bool.false_eq_true,
        lastUse?_erase]

end Cooldowns

end CommandTree
