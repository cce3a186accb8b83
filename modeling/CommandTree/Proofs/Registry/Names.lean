import CommandTree.Dispatch
import CommandTree.Proofs.Registry.Ancestry
import Mathlib.Algebra.BigOperators.Group.List.Basic
import Mathlib.Data.List.Nodup

/-!
# Names of commands

Names are compared twice.  A new command is refused if another one answers to its name
or to one of its aliases, so no two commands ever share a name.  Before a dispatcher
begins its work all names and aliases are compared once more, in one list, and that
list is longer than what the first comparison looked at: it holds the names of one
command beside each other.  The two agree just on registries in which no command
repeats one of its own names.

## Main definitions

* `Registry.namesOf` — the name and the aliases of a command.
* `Registry.Apart` — no two commands share a name.

## Main results

* `taken?_eq_none_iff` — when a new command may have its names.
* `Reachable.apart` — in registries that can be built no two commands share a name.
* `clash?_eq_none_iff`, `clash?_eq_some` — what the second comparison finds.
* `create_isOk_iff` — when a dispatcher begins its work.
* `own_alias_refused` — a command on which the two comparisons disagree.
-/

namespace CommandTree

variable {H : Host}

namespace Registry

variable {r r' : Registry H} {name : String} {id root : NodeId} {node : Node H}

/-! ### Names that are taken -/

/-- The name and the aliases of a command; a position outside the registry has none. -/
def namesOf (r : Registry H) (id : NodeId) : List String :=
  ((r.node? id).map fun node => node.data.names).getD []

theorem namesOf_eq (h : r.node? id = some node) : r.namesOf id = node.data.names := by
  rw [namesOf, h, Option.map_some, Option.getD_some]

theorem answersTo_iff : r.answersTo name id = true ↔ name ∈ r.namesOf id := by
  unfold answersTo namesOf
  cases r.node? id <;> simp

theorem findRoot?_eq_none_iff :
    r.findRoot? name = none ↔ ∀ root ∈ r.roots, name ∉ r.namesOf root := by
  simp only [findRoot?, List.find?_eq_none, answersTo_iff]

/-- **A new command may have its names** if no command answers to any of them. -/
theorem taken?_eq_none_iff {names : List String} :
    r.taken? names = none ↔ ∀ root ∈ r.roots, ∀ name ∈ names, name ∉ r.namesOf root := by
  induction names with
  | nil => simp [taken?]
  | cons name names ih =>
    rw [taken?]
    cases hfind : r.findRoot? name with
    | none =>
      have hfree := findRoot?_eq_none_iff.mp hfind
      simp only [ih, List.forall_mem_cons]
      exact ⟨fun h root hroot => ⟨hfree root hroot, h root hroot⟩, fun h root hroot =>
        (h root hroot).2⟩
    | some owner =>
      have htaken : ¬∀ root ∈ r.roots, name ∉ r.namesOf root := by
        rw [← findRoot?_eq_none_iff, hfind]
        exact Option.some_ne_none owner
      simp only [reduceCtorEq, false_iff]
      exact fun h => htaken fun root hroot => h root hroot name List.mem_cons_self

/-! ### No two commands share a name -/

/-- No two commands share a name. -/
def Apart (r : Registry H) : Prop :=
  ∀ ⦃a⦄, a ∈ r.roots → ∀ ⦃b⦄, b ∈ r.roots → ∀ name ∈ r.namesOf a, name ∈ r.namesOf b → a = b

theorem apart_empty : (empty : Registry H).Apart := by
  intro a ha
  obtain ⟨node, h, -⟩ := mem_roots.mp ha
  simp at h

/-- A root of a registry that only declares more is an old one, or was not there before. -/
theorem Extends.mem_roots_cases (hext : r.Extends r') (hroot : root ∈ r'.roots) :
    (root ∈ r.roots ∧ r'.namesOf root = r.namesOf root) ∨ r.node? root = none := by
  obtain ⟨new, hnew, hdepth⟩ := mem_roots.mp hroot
  cases hold : r.node? root with
  | none => exact .inr rfl
  | some old =>
    obtain ⟨node', hnode', hs⟩ := hext hold
    obtain rfl := Option.some.inj (hnew.symm.trans hnode')
    refine .inl ⟨mem_roots.mpr ⟨old, hold, hs.depth ▸ hdepth⟩, ?_⟩
    rw [namesOf_eq hnew, namesOf_eq hold, hs.data]

/-- Names stay apart if all roots are old. -/
theorem Apart.of_extends (hr : r.Apart) (hext : r.Extends r')
    (hold : ∀ root ∈ r'.roots, r.node? root ≠ none) : r'.Apart := by
  have old : ∀ root ∈ r'.roots, root ∈ r.roots ∧ r'.namesOf root = r.namesOf root :=
    fun root hroot => (hext.mem_roots_cases hroot).resolve_right (hold root hroot)
  intro a ha b hb name hna hnb
  obtain ⟨ha, heqa⟩ := old a ha
  obtain ⟨hb, heqb⟩ := old b hb
  exact hr ha hb name (heqa ▸ hna) (heqb ▸ hnb)

/-- A node pushed below another one is no root, so all roots are old. -/
theorem Apart.push_below (hr : r.Apart) {parent : NodeId} (hparent : r.node? parent = some node)
    (data : CommandData H) (a : Argument H) : (r.push (some parent) data a).1.Apart := by
  refine hr.of_extends (extends_push r _ data a) fun root hroot hnone => ?_
  obtain ⟨new, hnew, hdepth⟩ := mem_roots.mp hroot
  rcases node?_push_cases hnew with ⟨-, rfl⟩ | ⟨old, hold, -⟩
  · rw [depthBelow_some hparent] at hdepth
    cases hdepth
  · rw [hold] at hnone
    cases hnone

/-- Every move keeps names apart. -/
theorem Apart.move (hr : r.Apart) (h : Move r r') : r'.Apart := by
  cases h with
  | command data hfree =>
    have hext := extends_push r none data ⟨data.name, .literal⟩
    have hnew : (r.push none data ⟨data.name, .literal⟩).1.namesOf r.size = data.names := by
      rw [namesOf, node?_push, if_pos rfl, Option.map_some, Option.getD_some]
    -- The new command is the only root that was not there, and its names were free.
    have oldOrNew : ∀ root ∈ (r.push none data ⟨data.name, .literal⟩).1.roots,
        (root ∈ r.roots ∧ (r.push none data ⟨data.name, .literal⟩).1.namesOf root =
          r.namesOf root) ∨ root = r.size := by
      intro root hroot
      refine (hext.mem_roots_cases hroot).imp_right fun hnone => ?_
      obtain ⟨new, hnew, -⟩ := mem_roots.mp hroot
      rcases node?_push_cases hnew with ⟨rfl, -⟩ | ⟨old, hold, -⟩
      · rfl
      · rw [hold] at hnone
        cases hnone
    have free := taken?_eq_none_iff.mp hfree
    intro a ha b hb name hna hnb
    rcases oldOrNew a ha with ⟨ha, heqa⟩ | rfl <;> rcases oldOrNew b hb with ⟨hb, heqb⟩ | rfl
    · exact hr ha hb name (heqa ▸ hna) (heqb ▸ hnb)
    · exact absurd (heqa ▸ hna) (free a ha name (hnew ▸ hnb))
    · exact absurd (heqb ▸ hnb) (free b hb name (hnew ▸ hna))
    · rfl
  | argument a hparent => exact hr.push_below hparent _ a
  | literal data hparent => exact hr.push_below hparent data _
  | @attach id _ handler _ _ =>
    refine hr.of_extends (extends_setHandler r id handler) fun root hroot hnone => ?_
    obtain ⟨new, hnew, -⟩ := mem_roots.mp hroot
    obtain ⟨old, hold, -⟩ := node?_setHandler_cases hnew
    rw [hold] at hnone
    cases hnone

/-- **In every registry that can be built no two commands share a name.** -/
theorem Reachable.apart (hr : r.Reachable) : r.Apart :=
  hr.induction apart_empty fun _ _ h hm => h.move hm

/-! ### The second comparison -/

/-- The second comparison finds nothing just if no name is claimed twice. -/
theorem firstClash?_eq_none_iff {seen claims : List (String × String)} :
    firstClash? seen claims = none ↔
      (claims.map Prod.fst).Nodup ∧ ∀ claim ∈ claims, ∀ earlier ∈ seen, earlier.1 ≠ claim.1 := by
  induction claims generalizing seen with
  | nil => simp [firstClash?]
  | cons claim claims ih =>
    obtain ⟨name, owner⟩ := claim
    rw [firstClash?]
    cases hfind : seen.find? (·.1 == name) with
    | some earlier =>
      have hmem := List.mem_of_find?_eq_some hfind
      have hname : earlier.1 = name := by simpa using List.find?_some hfind
      simp only [reduceCtorEq, false_iff]
      rintro ⟨-, hfree⟩
      exact hfree (name, owner) List.mem_cons_self earlier hmem hname
    | none =>
      have hfree : ∀ earlier ∈ seen, earlier.1 ≠ name := by
        simpa using List.find?_eq_none.mp hfind
      simp only [ih, List.map_cons, List.nodup_cons, List.forall_mem_cons, List.forall_mem_append,
        List.mem_map, not_exists, not_and, List.mem_singleton, forall_eq]
      constructor
      · rintro ⟨hnodup, hrest⟩
        exact ⟨⟨fun claim hclaim => Ne.symm (hrest claim hclaim).2, hnodup⟩, hfree,
          fun claim hclaim => (hrest claim hclaim).1⟩
      · rintro ⟨⟨hname, hnodup⟩, -, hrest⟩
        exact ⟨hnodup, fun claim hclaim => ⟨hrest claim hclaim, Ne.symm (hname claim hclaim)⟩⟩

/-- What the second comparison finds is a claim to a name that an earlier claim is to, and it tells
whose the earlier one is. -/
theorem firstClash?_eq_some {seen claims : List (String × String)} {e : BuildError}
    (h : firstClash? seen claims = some e) :
    ∃ before name owner after earlier, claims = before ++ (name, owner) :: after ∧
      (name, earlier) ∈ seen ++ before ∧ e = .duplicateRoot name earlier := by
  induction claims generalizing seen with
  | nil => simp [firstClash?] at h
  | cons claim claims ih =>
    obtain ⟨name, owner⟩ := claim
    rw [firstClash?] at h
    cases hfind : seen.find? (·.1 == name) with
    | some earlier =>
      have hmem := List.mem_of_find?_eq_some hfind
      have hname : earlier.1 = name := by simpa using List.find?_some hfind
      rw [hfind] at h
      refine ⟨[], name, owner, claims, earlier.2, rfl, ?_, (Option.some.inj h).symm⟩
      rwa [List.append_nil, ← hname]
    | none =>
      rw [hfind] at h
      obtain ⟨before, name', owner', after, earlier, rfl, hmem, he⟩ := ih h
      refine ⟨(name, owner) :: before, name', owner', after, earlier, rfl, ?_, he⟩
      rwa [List.append_assoc, List.singleton_append] at hmem

theorem mem_claims {claim : String × String} :
    claim ∈ r.claims ↔ ∃ root ∈ r.roots, claim.1 ∈ r.namesOf root ∧ claim.2 = r.nameOf root := by
  obtain ⟨name, owner⟩ := claim
  simp only [claims, List.mem_flatMap, List.mem_map, Prod.mk.injEq]
  constructor
  · rintro ⟨root, hroot, name', hname, rfl, rfl⟩
    exact ⟨root, hroot, hname, rfl⟩
  · rintro ⟨root, hroot, hname, rfl⟩
    exact ⟨root, hroot, name, hname, rfl, rfl⟩

theorem map_fst_claims (r : Registry H) : r.claims.map Prod.fst = r.roots.flatMap r.namesOf := by
  rw [claims, List.map_flatMap]
  refine List.flatMap_congr fun root _ => ?_
  rw [List.map_map]
  exact List.map_id _

theorem nodup_roots (r : Registry H) : r.roots.Nodup := List.nodup_range.filter _

/-- **The two comparisons agree** on what the first one lets pass, but for commands that repeat one
of their own names. -/
theorem clash?_eq_none_iff (hr : r.Apart) :
    r.clash? = none ↔ ∀ root ∈ r.roots, (r.namesOf root).Nodup := by
  have hpairwise : r.roots.Pairwise (Function.onFun List.Disjoint r.namesOf) :=
    (nodup_roots r).pairwise_of_forall_ne fun a ha b hb hne name hna hnb =>
      hne (hr ha hb name hna hnb)
  rw [clash?, firstClash?_eq_none_iff, map_fst_claims, List.nodup_flatMap]
  simp [hpairwise]

/-- **A conflict is one of a command with itself**: it claims the name twice. -/
theorem clash?_eq_some (hr : r.Apart) {e : BuildError} (h : r.clash? = some e) :
    ∃ root ∈ r.roots, ∃ name, e = .duplicateRoot name (r.nameOf root) ∧
      2 ≤ (r.namesOf root).count name := by
  obtain ⟨before, name, owner, after, earlier, hclaims, hmem, rfl⟩ := firstClash?_eq_some h
  rw [List.nil_append] at hmem
  have hearlier : (name, earlier) ∈ r.claims := hclaims ▸ List.mem_append_left _ hmem
  obtain ⟨root, hroot, hname, heq⟩ := mem_claims.mp hearlier
  simp only at hname heq
  refine ⟨root, hroot, name, by rw [heq], ?_⟩
  -- All claims to the name are those of this command.
  have hothers : ∀ other ∈ r.roots, other ≠ root → (r.namesOf other).count name = 0 :=
    fun other hother hne => List.count_eq_zero.mpr fun hname' =>
      hne (hr hother hroot name hname' hname)
  have hall : (r.claims.map Prod.fst).count name = (r.namesOf root).count name := by
    rw [map_fst_claims, List.count_flatMap, List.sum_map_eq_nsmul_single root
      (List.count name ∘ r.namesOf) fun other hne hother => hothers other hother hne,
      (nodup_roots r).count, if_pos hroot, one_nsmul, Function.comp_apply]
  -- There are the earlier one and the one in conflict with it.
  have hpos : 0 < (before.map Prod.fst).count name :=
    List.count_pos_iff.mpr (List.mem_map_of_mem hmem)
  rw [← hall, hclaims, List.map_append, List.count_append, List.map_cons, List.count_cons_self]
  omega

end Registry

namespace Dispatcher

open Registry

/-- **When a dispatcher begins its work**: it needs a sigil, and each command of its registry must
have every name once.  That no two commands share a name is known from how they were declared, so a
command in conflict is in conflict with itself. -/
theorem create_isOk_iff (steps : List (BuildStep H)) (sigil : String) (program : Program H) :
    ((∃ d, Dispatcher.create (ofSteps steps) sigil program = .ok d) ↔
      sigil ≠ "" ∧ ∀ root ∈ (ofSteps steps).roots, ((ofSteps steps).namesOf root).Nodup) ∧
    ∀ e, (ofSteps steps).clash? = some e → ∃ root ∈ (ofSteps steps).roots, ∃ name,
      e = .duplicateRoot name ((ofSteps steps).nameOf root) ∧
        2 ≤ ((ofSteps steps).namesOf root).count name := by
  have hapart : (ofSteps steps).Apart := Reachable.apart ⟨steps, rfl⟩
  refine ⟨?_, fun e he => clash?_eq_some hapart he⟩
  rw [← clash?_eq_none_iff hapart, Dispatcher.create]
  by_cases hsigil : sigil = ""
  · simp [hsigil]
  · cases (ofSteps steps).clash? <;> simp [hsigil]

/-- The command `a` with the alias `a` may be declared, for no other command has the name; but then
it is in conflict with itself, and no dispatcher begins its work. -/
theorem own_alias_refused :
    let data : CommandData (Host.still Unit) := ⟨"a", "", ["a"], none, none, false, none⟩
    ((empty.command data).result = .ok 0) ∧
      (ofSteps [.command data]).clash? = some (.duplicateRoot "a" "a") ∧
      ∀ program, ¬∃ d, Dispatcher.create (ofSteps [.command data]) "-" program = .ok d := by
  intro data
  have hclash : (ofSteps [.command data]).clash? = some (.duplicateRoot "a" "a") := by
    decide +kernel
  refine ⟨rfl, hclash, fun program ⟨d, hd⟩ => ?_⟩
  rw [Dispatcher.create, hclash] at hd
  simp at hd

end Dispatcher

end CommandTree
