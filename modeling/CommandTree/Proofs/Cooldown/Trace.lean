import CommandTree.Proofs.Cooldown
import Mathlib.Data.Finset.Card
import Mathlib.Data.Finset.Dedup

/-!
# What the table remembers

A question to the table looks as if it left the table alone, but one whose window has
passed takes the entry away, and a later question with a longer window then gets no
answer.  So what the table answers depends on the questions that were asked before.
It can be read off the steps alone nevertheless: an entry stands as long as every
question about its key, since the key was last used, came while its window was running.
Windows need not be the same from question to question, and other keys do not matter.

## Main definitions

* `Step`, `trace` — what happens to a table, and the table after it.
* `LastUse`, `Expired` — the last use of a key, and a question since that came too late.
* `InForce` — the last use of a key still counts.

## Main results

* `inForce_snoc`, `inForce_snoc_record` — how one more step changes what counts.
* `lastUse?_trace` — **the table remembers the uses that count**, each at its time.
* `answer_trace_eq_some_iff` — what is answered.
* `sameFor_trace_filter` — what does not concern a key changes nothing for it.
* `trace_law` — what is answered after any steps, and how many entries there are.
-/

namespace CommandTree.Cooldowns

/-! ### Steps -/

/-- What happens to a table. -/
inductive Step where
  /-- A use is recorded under the key. -/
  | record (key : CooldownKey)
  /-- It is asked how long one has to wait under the key, for a window of that length. -/
  | ask (key : CooldownKey) (window : Span)
  /-- Time passes. -/
  | wait (t : Span)
  deriving DecidableEq, Repr

/-- The time that a step takes. -/
def Step.length : Step → Span
  | .wait t => t
  | _ => 0

/-- Whether a step has to do with a key; the time has to do with all. -/
def Step.concerns (key : CooldownKey) : Step → Bool
  | .record other => other = key
  | .ask other _ => other = key
  | .wait _ => true

/-- A table and the time. -/
structure Timed where
  /-- The table. -/
  table : Cooldowns
  /-- The time. -/
  now : Span
  deriving DecidableEq, Repr

/-- The answer to a question. -/
def Timed.answer (c : Timed) (key : CooldownKey) (window : Span) : Option Span :=
  (c.table.remaining key window c.now).1

/-- The table after a step. -/
def Timed.next (c : Timed) : Step → Timed
  | .record key => { c with table := c.table.record key c.now }
  | .ask key window => { c with table := (c.table.remaining key window c.now).2 }
  | .wait t => { c with now := c.now + t }

/-- A table that was empty at the time `start`, after some steps. -/
def trace (start : Span) (steps : List Step) : Timed := steps.foldl Timed.next ⟨.empty, start⟩

/-- The time after some steps. -/
def timeAfter (start : Span) (steps : List Step) : Span :=
  steps.foldl (fun now step => now + step.length) start

variable {start t : Span} {steps after : List Step} {step : Step} {key : CooldownKey}

theorem trace_snoc (start : Span) (steps : List Step) (step : Step) :
    trace start (steps ++ [step]) = (trace start steps).next step := by
  rw [trace, List.foldl_append]
  rfl

theorem timeAfter_append (start : Span) (steps others : List Step) :
    timeAfter start (steps ++ others) = timeAfter (timeAfter start steps) others :=
  List.foldl_append

theorem timeAfter_record (start : Span) (key : CooldownKey) (steps : List Step) :
    timeAfter start (.record key :: steps) = timeAfter start steps := rfl

theorem now_trace (start : Span) (steps : List Step) :
    (trace start steps).now = timeAfter start steps := by
  induction steps using List.reverseRecOn with
  | nil => rfl
  | append_singleton steps step ih =>
    rw [trace_snoc, timeAfter_append, ← ih]
    cases step <;> rfl

/-! ### Uses that count -/

/-- The key was last used at the time `t`, and `after` is what happened since. -/
def LastUse (start : Span) (steps : List Step) (key : CooldownKey) (t : Span)
    (after : List Step) : Prop :=
  ∃ before, steps = before ++ .record key :: after ∧ t = timeAfter start before ∧
    .record key ∉ after

/-- Among what happened since the time `t` is a question about the key whose window had passed. -/
def Expired (key : CooldownKey) (t : Span) (after : List Step) : Prop :=
  ∃ between window rest, after = between ++ .ask key window :: rest ∧
    window ≤ timeAfter t between - t

/-- The last use of the key was at the time `t`, and it still counts. -/
def InForce (start : Span) (steps : List Step) (key : CooldownKey) (t : Span) : Prop :=
  ∃ after, LastUse start steps key t after ∧ ¬Expired key t after

/-- A certain step among some steps and one more is that one or stands among the others. -/
theorem snoc_eq_append_cons {before : List Step} {certain : Step} :
    steps ++ [step] = before ++ certain :: after ↔
      (steps = before ∧ step = certain ∧ after = []) ∨
        ∃ rest, steps = before ++ certain :: rest ∧ after = rest ++ [step] := by
  constructor
  · intro h
    rcases List.eq_nil_or_concat' after with rfl | ⟨rest, last, rfl⟩
    · obtain ⟨hsteps, hstep⟩ := List.append_inj' h rfl
      exact .inl ⟨hsteps, List.singleton_inj.mp hstep, rfl⟩
    · rw [← List.cons_append, ← List.append_assoc] at h
      obtain ⟨hsteps, hstep⟩ := List.append_inj' h rfl
      exact .inr ⟨rest, hsteps, by rw [hstep]⟩
  · rintro (⟨rfl, rfl, rfl⟩ | ⟨rest, rfl, rfl⟩)
    · rfl
    · simp

theorem LastUse.timeAfter_eq (h : LastUse start steps key t after) :
    timeAfter t after = timeAfter start steps := by
  obtain ⟨before, rfl, rfl, -⟩ := h
  rw [timeAfter_append, timeAfter_record]

/-- The key that was just used is one that was never asked for since. -/
theorem lastUse_snoc_record :
    LastUse start (steps ++ [.record key]) key t after ↔
      after = [] ∧ t = timeAfter start steps := by
  constructor
  · rintro ⟨before, hsteps, rfl, hlast⟩
    rcases snoc_eq_append_cons.mp hsteps with ⟨rfl, -, rfl⟩ | ⟨rest, -, rfl⟩
    · exact ⟨rfl, rfl⟩
    · simp at hlast
  · rintro ⟨rfl, rfl⟩
    exact ⟨steps, rfl, rfl, List.not_mem_nil⟩

/-- Another step comes after the last use. -/
theorem lastUse_snoc (hstep : step ≠ .record key) :
    LastUse start (steps ++ [step]) key t after ↔
      ∃ rest, after = rest ++ [step] ∧ LastUse start steps key t rest := by
  constructor
  · rintro ⟨before, hsteps, rfl, hlast⟩
    rcases snoc_eq_append_cons.mp hsteps with ⟨-, rfl, -⟩ | ⟨rest, rfl, rfl⟩
    · exact absurd rfl hstep
    · exact ⟨rest, rfl, before, rfl, rfl, fun h => hlast (List.mem_append_left _ h)⟩
  · rintro ⟨rest, rfl, before, rfl, rfl, hlast⟩
    refine ⟨before, by simp, rfl, fun h => ?_⟩
    rcases List.mem_append.mp h with h | h
    · exact hlast h
    · exact hstep (List.mem_singleton.mp h).symm

/-- The last step may be the question that came too late. -/
theorem expired_snoc :
    Expired key t (after ++ [step]) ↔
      Expired key t after ∨ ∃ window, step = .ask key window ∧ window ≤ timeAfter t after - t := by
  constructor
  · rintro ⟨between, window, rest, hafter, hlate⟩
    rcases snoc_eq_append_cons.mp hafter with ⟨rfl, rfl, -⟩ | ⟨rest, rfl, -⟩
    · exact .inr ⟨window, rfl, hlate⟩
    · exact .inl ⟨between, window, rest, rfl, hlate⟩
  · rintro (⟨between, window, rest, rfl, hlate⟩ | ⟨window, rfl, hlate⟩)
    · exact ⟨between, window, rest ++ [step], by simp, hlate⟩
    · exact ⟨after, window, [], rfl, hlate⟩

/-- **A use that is recorded** is the only one of its key that counts. -/
theorem inForce_snoc_record :
    InForce start (steps ++ [.record key]) key t ↔ t = timeAfter start steps := by
  constructor
  · rintro ⟨after, hlast, -⟩
    exact (lastUse_snoc_record.mp hlast).2
  · intro ht
    refine ⟨[], lastUse_snoc_record.mpr ⟨rfl, ht⟩, ?_⟩
    rintro ⟨between, window, rest, hnil, -⟩
    simp at hnil

/-- **Any other step** leaves a use in force, but for a question about its key that comes too
late. -/
theorem inForce_snoc (hstep : step ≠ .record key) :
    InForce start (steps ++ [step]) key t ↔ InForce start steps key t ∧
      ∀ window, step = .ask key window → timeAfter start steps - t < window := by
  constructor
  · rintro ⟨_, hsnoc, hfresh⟩
    obtain ⟨rest, rfl, hlast⟩ := (lastUse_snoc hstep).mp hsnoc
    rw [expired_snoc, not_or] at hfresh
    refine ⟨⟨rest, hlast, hfresh.1⟩, fun window hask => Nat.lt_of_not_le fun hlate => ?_⟩
    exact hfresh.2 ⟨window, hask, hlast.timeAfter_eq ▸ hlate⟩
  · rintro ⟨⟨rest, hlast, hfresh⟩, hrun⟩
    refine ⟨rest ++ [step], (lastUse_snoc hstep).mpr ⟨rest, rfl, hlast⟩, ?_⟩
    rw [expired_snoc]
    rintro (hexpired | ⟨window, hask, hlate⟩)
    · exact hfresh hexpired
    · exact Nat.not_lt.mpr (hlast.timeAfter_eq ▸ hlate) (hrun window hask)

/-! ### What the table remembers -/

/-- **The table remembers the uses that count**, each at its time. -/
theorem lastUse?_trace (start : Span) (steps : List Step) (key : CooldownKey) (t : Span) :
    (trace start steps).table.lastUse? key = some t ↔ InForce start steps key t := by
  induction steps using List.reverseRecOn generalizing t with
  | nil =>
    constructor
    · intro h
      cases h
    · rintro ⟨after, ⟨before, hnil, -⟩, -⟩
      simp at hnil
  | append_singleton steps step ih =>
    have hnow := now_trace start steps
    rw [trace_snoc]
    cases step with
    | record other =>
      simp only [Timed.next, lastUse?_record, hnow]
      by_cases hother : key = other
      · subst hother
        rw [if_pos rfl, inForce_snoc_record, Option.some.injEq, eq_comm]
      · rw [if_neg hother, ih, inForce_snoc (by simpa [eq_comm] using hother)]
        simp
    | ask other window =>
      simp only [Timed.next, lastUse?_remaining, hnow]
      rw [inForce_snoc (by simp), ← ih]
      by_cases hother : key = other
      · subst hother
        simp [Option.filter_eq_some_iff]
      · simp [hother, eq_comm]
    | wait time =>
      rw [inForce_snoc (by simp), ← ih]
      simp [Timed.next]

/-! ### What does not concern a key -/

/-- At the same time, two tables remember the same of a key. -/
structure SameFor (key : CooldownKey) (c c' : Timed) : Prop where
  /-- The time is the same. -/
  now : c.now = c'.now
  /-- The last use is the same. -/
  lastUse? : c.table.lastUse? key = c'.table.lastUse? key

theorem SameFor.trans {c c' c'' : Timed} (h : SameFor key c c') (h' : SameFor key c' c'') :
    SameFor key c c'' :=
  ⟨h.now.trans h'.now, h.lastUse?.trans h'.lastUse?⟩

/-- A step keeps two tables the same for a key. -/
theorem SameFor.next {c c' : Timed} (h : SameFor key c c') (step : Step) :
    SameFor key (c.next step) (c'.next step) := by
  obtain ⟨hnow, hlast⟩ := h
  cases step with
  | record other => exact ⟨hnow, by simp only [Timed.next, lastUse?_record, hnow, hlast]⟩
  | ask other window =>
    refine ⟨hnow, ?_⟩
    simp only [Timed.next, lastUse?_remaining, hnow]
    split
    · next heq => rw [← heq, hlast]
    · exact hlast
  | wait t => exact ⟨by simp only [Timed.next, hnow], hlast⟩

/-- A step that does not concern a key changes nothing for it. -/
theorem sameFor_next (c : Timed) (h : step.concerns key = false) :
    SameFor key c (c.next step) := by
  cases step with
  | record other =>
    have hother : key ≠ other := fun heq => of_decide_eq_false h heq.symm
    exact ⟨rfl, by simp only [Timed.next, lastUse?_record, if_neg hother]⟩
  | ask other window =>
    have hother : key ≠ other := fun heq => of_decide_eq_false h heq.symm
    exact ⟨rfl, by simp only [Timed.next, lastUse?_remaining, if_neg hother]⟩
  | wait t => cases h

/-- **What does not concern a key** could as well not have happened. -/
theorem sameFor_trace_filter (start : Span) (steps : List Step) (key : CooldownKey) :
    SameFor key (trace start (steps.filter (·.concerns key))) (trace start steps) := by
  induction steps using List.reverseRecOn with
  | nil => exact ⟨rfl, rfl⟩
  | append_singleton steps step ih =>
    rw [trace_snoc, List.filter_append]
    by_cases hconcerns : step.concerns key = true
    · rw [List.filter_cons_of_pos hconcerns, List.filter_nil, trace_snoc]
      exact ih.next step
    · rw [List.filter_cons_of_neg hconcerns, List.filter_nil, List.append_nil]
      exact ih.trans (sameFor_next _ (Bool.eq_false_iff.mpr hconcerns))

theorem SameFor.answer_eq {c c' : Timed} (h : SameFor key c c') (window : Span) :
    c.answer key window = c'.answer key window := by
  rw [Timed.answer, Timed.answer, remaining_fst, remaining_fst, h.now, h.lastUse?]

/-! ### The number of entries -/

/-- The keys that a table has entries for. -/
def keys (t : Cooldowns) : List CooldownKey := t.entries.map Prod.fst

theorem mem_keys_iff {t : Cooldowns} : key ∈ t.keys ↔ ∃ time, t.lastUse? key = some time := by
  rw [← Option.isSome_iff_exists, Cooldowns.lastUse?, List.lookup_isSome_iff, keys, List.mem_map]
  refine exists_congr fun entry => and_congr_right fun _ => ?_
  rw [beq_iff_eq, eq_comm]

theorem keys_erase_sublist (t : Cooldowns) (key : CooldownKey) :
    (t.erase key).keys.Sublist t.keys :=
  List.filter_sublist.map Prod.fst

theorem notMem_keys_erase (t : Cooldowns) (key : CooldownKey) : key ∉ (t.erase key).keys := by
  rw [mem_keys_iff, lastUse?_erase, if_pos rfl]
  exact nofun

/-- No key has two entries, whatever happens. -/
theorem nodup_keys_next {c : Timed} (h : c.table.keys.Nodup) (step : Step) :
    (c.next step).table.keys.Nodup := by
  cases step with
  | record key =>
    exact List.nodup_cons.mpr
      ⟨notMem_keys_erase c.table key, h.sublist (keys_erase_sublist c.table key)⟩
  | ask key window =>
    simp only [Timed.next, remaining]
    split
    · exact h
    · split
      · exact h
      · exact h.sublist (keys_erase_sublist c.table key)
  | wait t => exact h

theorem nodup_keys_trace (start : Span) (steps : List Step) :
    (trace start steps).table.keys.Nodup := by
  induction steps using List.reverseRecOn with
  | nil => exact List.nodup_nil
  | append_singleton steps step ih =>
    rw [trace_snoc]
    exact nodup_keys_next ih step

/-! ### The law -/

/-- **What is answered**: the rest of the window, if it is running since the last use and that one
counts. -/
theorem answer_trace_eq_some_iff {window left : Span} :
    (trace start steps).answer key window = some left ↔
      ∃ t, InForce start steps key t ∧ timeAfter start steps - t < window ∧
        left = window - (timeAfter start steps - t) := by
  have hfst : (trace start steps).answer key window =
      ((trace start steps).table.lastUse? key).bind fun last =>
        if timeAfter start steps - last < window then
          some (window - (timeAfter start steps - last))
        else none := by
    rw [Timed.answer, remaining_fst, now_trace]
  rw [hfst, Option.bind_eq_some_iff]
  refine exists_congr fun t => and_congr (lastUse?_trace start steps key t) ?_
  rw [Option.ite_none_right_eq_some, Option.some.injEq, eq_comm]

/-- **What a table answers after any steps.**  There is an answer just if the last use of the key
still counts and the window asked for is running since then; the answer is the rest of it.  Steps
under other keys do not matter, and the table has one entry for each key whose last use counts. -/
theorem trace_law (start : Span) (steps : List Step) :
    let c := trace start steps
    let now := timeAfter start steps
    (∀ key window left, c.answer key window = some left ↔
      ∃ t, InForce start steps key t ∧ now - t < window ∧ left = window - (now - t)) ∧
    (∀ key window, c.answer key window ≠ some 0) ∧
    (∀ key window,
      (trace start (steps.filter (·.concerns key))).answer key window = c.answer key window) ∧
    ∃ counting : Finset CooldownKey,
      (∀ key, key ∈ counting ↔ ∃ t, InForce start steps key t) ∧
        c.table.size = counting.card := by
  intro c now
  refine ⟨fun _ _ _ => answer_trace_eq_some_iff, fun key window hzero => ?_,
    fun key window => ?_, c.table.keys.toFinset, fun key => ?_, ?_⟩
  · obtain ⟨t, -, hrun, hleft⟩ := answer_trace_eq_some_iff.mp hzero
    exact Nat.sub_ne_zero_of_lt hrun hleft.symm
  · exact (sameFor_trace_filter start steps key).answer_eq window
  · rw [List.mem_toFinset, mem_keys_iff]
    exact exists_congr fun t => lastUse?_trace start steps key t
  · rw [List.toFinset_card_of_nodup (nodup_keys_trace start steps), keys, List.length_map]
    rfl

/-- A question that comes when its window has passed is the last one that could have been answered:
a longer window does not bring the use back. -/
example :
    (trace 7 [.record ("ann", 0), .wait 5, .ask ("bob", 0) 5]).answer ("ann", 0) 9 = some 4 ∧
    (trace 7 [.record ("ann", 0), .wait 5, .ask ("ann", 0) 5]).answer ("ann", 0) 9 = none := by
  decide

end CommandTree.Cooldowns
