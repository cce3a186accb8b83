import CommandTree.Proofs.Registry.Names

/-!
# Who owns a name

A name is looked up among the commands in the order in which they were declared, and
the first that answers to it is taken.  In registries that can be built there is never
a second one, so the order does not matter: a name belongs to one command or to none.
Names are given away for good, and a command that asks for one that is gone is told
who has it.

## Main definitions

* `Registry.Answers` — a command answers to a name.

## Main results

* `taken?_eq_some_iff` — which name of a new command is refused, and in whose favour.
* `Apart.findRoot?_eq_some_iff` — looking a name up finds the command that answers to it.
* `names_owned` — names have one owner, who keeps them and is reported to others.
-/

namespace CommandTree

variable {H : Host}

namespace Registry

variable {r r' : Registry H} {name : String} {root : NodeId}

/-- The command answers to the name, or to an alias of that spelling. -/
def Answers (r : Registry H) (root : NodeId) (name : String) : Prop :=
  root ∈ r.roots ∧ name ∈ r.namesOf root

theorem answers_of_findRoot? (h : r.findRoot? name = some root) : r.Answers root name := by
  have hroot : root ∈ r.roots := List.mem_of_find?_eq_some h
  have hname : r.answersTo name root = true := List.find?_some h
  exact ⟨hroot, answersTo_iff.mp hname⟩

theorem findRoot?_eq_none_iff_answers :
    r.findRoot? name = none ↔ ∀ root, ¬r.Answers root name := by
  rw [findRoot?_eq_none_iff]
  simp only [Answers, not_and]

theorem exists_findRoot?_iff :
    (∃ root, r.findRoot? name = some root) ↔ ∃ root, r.Answers root name := by
  constructor
  · rintro ⟨root, h⟩
    exact ⟨root, answers_of_findRoot? h⟩
  · rintro ⟨root, h⟩
    rw [← Option.ne_none_iff_exists', ne_eq, findRoot?_eq_none_iff_answers]
    exact fun hnone => hnone root h

/-! ### Looking names up -/

theorem Apart.answers_unique (hr : r.Apart) {a b : NodeId} (ha : r.Answers a name)
    (hb : r.Answers b name) : a = b :=
  hr ha.1 hb.1 name ha.2 hb.2

/-- **Looking a name up finds the command that answers to it**, wherever it stands among the
others. -/
theorem Apart.findRoot?_eq_some_iff (hr : r.Apart) :
    r.findRoot? name = some root ↔ r.Answers root name := by
  constructor
  · exact answers_of_findRoot?
  · intro h
    obtain ⟨found, hfound⟩ := exists_findRoot?_iff.mpr ⟨root, h⟩
    rw [hfound, hr.answers_unique (answers_of_findRoot? hfound) h]

/-- A command keeps its names when the registry grows. -/
theorem Answers.of_extends (h : r.Answers root name) (hext : r.Extends r') :
    r'.Answers root name := by
  obtain ⟨hroot, hname⟩ := h
  obtain ⟨node, hnode, hdepth⟩ := mem_roots.mp hroot
  obtain ⟨node', hnode', hs⟩ := hext hnode
  have hdepth' : node'.depth = 0 := hs.depth.trans hdepth
  refine ⟨mem_roots.mpr ⟨node', hnode', hdepth'⟩, ?_⟩
  rw [namesOf_eq hnode', hs.data, ← namesOf_eq hnode]
  exact hname

/-! ### New commands -/

/-- **The name that is refused** is the first one of those asked for that some command answers
to. -/
theorem taken?_eq_some_iff {names : List String} {e : BuildError} :
    r.taken? names = some e ↔ ∃ before name after owner, names = before ++ name :: after ∧
      (∀ free ∈ before, r.findRoot? free = none) ∧ r.findRoot? name = some owner ∧
      e = .duplicateRoot name (r.nameOf owner) := by
  induction names with
  | nil => simp [taken?]
  | cons first names ih =>
    rw [taken?]
    cases hfind : r.findRoot? first with
    | some owner =>
      simp only [Option.some.injEq]
      constructor
      · rintro rfl
        exact ⟨[], first, names, owner, rfl, by simp, hfind, rfl⟩
      · rintro ⟨before, name, after, owner', hnames, hfree, hname, rfl⟩
        -- Nothing can stand before the first name, for it is not free.
        cases before with
        | nil =>
          obtain ⟨rfl, -⟩ := List.cons.inj hnames
          rw [hfind, Option.some.injEq] at hname
          rw [hname]
        | cons head before =>
          obtain ⟨rfl, -⟩ := List.cons.inj hnames
          have hnone := hfree first List.mem_cons_self
          rw [hfind] at hnone
          cases hnone
    | none =>
      simp only [ih]
      constructor
      · rintro ⟨before, name, after, owner, rfl, hfree, hname, rfl⟩
        exact ⟨first :: before, name, after, owner, rfl, List.forall_mem_cons.mpr ⟨hfind, hfree⟩,
          hname, rfl⟩
      · rintro ⟨before, name, after, owner, hnames, hfree, hname, rfl⟩
        -- The first name is free, so it is not the one that is refused.
        cases before with
        | nil =>
          obtain ⟨rfl, -⟩ := List.cons.inj hnames
          rw [hfind] at hname
          cases hname
        | cons head before =>
          obtain ⟨-, rfl⟩ := List.cons.inj hnames
          exact ⟨before, name, after, owner, rfl, (List.forall_mem_cons.mp hfree).2, hname, rfl⟩

theorem command_result_eq_error_iff {data : CommandData H} {e : BuildError} :
    (r.command data).result = .error e ↔ r.taken? data.names = some e := by
  rw [command]
  cases r.taken? data.names with
  | none => simp [Built.grown]
  | some e' => simp

theorem exists_taken?_iff {names : List String} :
    (∃ e, r.taken? names = some e) ↔ ∃ name ∈ names, ∃ root, r.Answers root name := by
  rw [← Option.ne_none_iff_exists', ne_eq, taken?_eq_none_iff]
  simp only [Answers]
  push Not
  constructor
  · rintro ⟨root, hroot, name, hname, howned⟩
    exact ⟨name, hname, root, hroot, howned⟩
  · rintro ⟨name, hname, root, hroot, howned⟩
    exact ⟨root, hroot, name, hname, howned⟩

/-- **Names have one owner, for good.**  At most one command answers to a name, and looking the name
up finds that command.  A new command is refused just if some command answers to one of its names,
its own name coming before its aliases, and the first such name is reported with the command that
has it.  Whatever is declared later, a name leads where it led before. -/
theorem names_owned (hr : r.Reachable) :
    (∀ name a b, r.Answers a name → r.Answers b name → a = b) ∧
    (∀ name root, r.findRoot? name = some root ↔ r.Answers root name) ∧
    (∀ data : CommandData H,
      ((∃ e, (r.command data).result = .error e) ↔
        ∃ name ∈ data.name :: data.aliases, ∃ root, r.Answers root name) ∧
      ∀ e, (r.command data).result = .error e ↔ ∃ before name after root,
        data.name :: data.aliases = before ++ name :: after ∧
        (∀ free ∈ before, ∀ other, ¬r.Answers other free) ∧ r.Answers root name ∧
        e = .duplicateRoot name (r.nameOf root)) ∧
    ∀ steps name root, r.findRoot? name = some root →
      (r.after steps).findRoot? name = some root := by
  have hapart : r.Apart := hr.apart
  refine ⟨fun name a b ha hb => hapart.answers_unique ha hb,
    fun name root => hapart.findRoot?_eq_some_iff, fun data => ⟨?_, fun e => ?_⟩, ?_⟩
  · simp only [command_result_eq_error_iff]
    exact exists_taken?_iff
  · rw [command_result_eq_error_iff, taken?_eq_some_iff]
    simp only [findRoot?_eq_none_iff_answers, hapart.findRoot?_eq_some_iff]
    rfl
  · intro steps name root h
    have hlater : (r.after steps).Answers root name :=
      (answers_of_findRoot? h).of_extends (after_grows r steps).extends
    exact (hr.after steps).apart.findRoot?_eq_some_iff.mpr hlater

/-- The commands `warp`, also called `w`, and `home`, also called `h`. -/
def nearTree : Registry (Host.still Unit) :=
  ofSteps [.command ⟨"warp", "", ["w"], none, none, false, none⟩, .location 0 "to",
    .command ⟨"home", "", ["h"], none, none, false, none⟩]

/-- A command `walk` may not have the aliases `h` and `w`, of which the first belongs to `home`.
The built-in help, which would be called `h` too, is refused, and `h` still leads home when all is
declared that can be. -/
theorem names_owned_near :
    (nearTree.command ⟨"walk", "", ["h", "w"], none, none, false, none⟩).result =
      .error (.duplicateRoot "h" "home") ∧
    (nearTree.after [.help, .teleport, .command (.plain "walk" "")]).findRoot? "h" = some 4 := by
  have hr : nearTree.Reachable := ⟨_, rfl⟩
  obtain ⟨-, hfind, hcommand, hlater⟩ := names_owned hr
  have hhome : nearTree.findRoot? "h" = some 4 := by decide +kernel
  have hfree : nearTree.findRoot? "walk" = none := by decide +kernel
  refine ⟨((hcommand _).2 _).mpr ⟨["walk"], "h", ["w"], 4, rfl, ?_, (hfind "h" 4).mp hhome, ?_⟩,
    hlater _ "h" 4 hhome⟩
  · simpa using findRoot?_eq_none_iff_answers.mp hfree
  · decide +kernel

end Registry

end CommandTree
