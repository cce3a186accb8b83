import CommandTree.Proofs.Argument
import CommandTree.Proofs.Registry.Ancestry
import CommandTree.Proofs.Resolve.Descent
import Mathlib.Control.Monad.Basic

/-!
# Greedy chains

Which path words choose can be said without a walk.  A chain is greedy if each of its
nodes is the first child of the one before that takes its word, and may be used by the
player.  Resolving gives a path just if the path is a greedy chain that comes to a good
end; it is refused at a node just if that node is the first to take the next word after
a greedy chain, and may not be used, whatever its later siblings would say; and in all
other cases the words are at fault.

What a node takes may depend on when it is asked, for questions may change the state of
the host.  So this is said twice: of any host, with every answer as it is given, and of
a host that gives the same answers throughout the walk, where it can be said in one
state.

## Main definitions

* `Verdict` — what resolving answers, by the chains it can end on or be barred after.
* `Registry.EndsOn`, `Registry.BarredBy` — these chains, with the answers as they are given.
* `Registry.Steady` — a host gives the same answers throughout a walk.
* `Registry.Greedy`, `Registry.GreedyEnd`, `Registry.GreedyBar` — the chains in one state.

## Main results

* `resolve_verdict` — what resolving answers on any host.
* `Steady.of_sameAnswers` — hosts on which the same players are found are steady.
* `Steady.endsOn_iff`, `Steady.barredBy_iff` — the chains on a steady host.
* `resolve_greedy` — both, and the path as that to the last node.
-/

namespace CommandTree

variable {H : Host}

/-- What resolving words answers: a path on which a walk ends well, a node that bars the way, and
in all other cases what is wrong with the words. -/
structure Verdict (answer : Except Unresolved (List NodeId)) (ends : List NodeId → Prop)
    (bars : NodeId → Prop) : Prop where
  /-- A path. -/
  path : ∀ path, answer = .ok path ↔ ends path
  /-- A node that may not be used. -/
  denied : ∀ n, answer = .error (.denied n) ↔ bars n
  /-- A mistake in the words. -/
  malformed : (∃ e, answer = .error (.malformed e)) ↔ (∀ path, ¬ends path) ∧ ∀ n, ¬bars n

/-- There are no other answers. -/
theorem Verdict.of_iff {answer : Except Unresolved (List NodeId)} {ends : List NodeId → Prop}
    {bars : NodeId → Prop} (hpath : ∀ path, answer = .ok path ↔ ends path)
    (hdenied : ∀ n, answer = .error (.denied n) ↔ bars n) : Verdict answer ends bars where
  path := hpath
  denied := hdenied
  malformed := by
    simp only [← hpath, ← hdenied]
    cases answer with
    | ok path => simp
    | error e => cases e <;> simp

namespace Registry

variable {r : Registry H} {who : H.Who} {sigil word : String} {id root child last : NodeId}
  {words rest : List String} {path : List NodeId} {base s t : H.State}

/-! ### Any host -/

/-- The words lead along the path to a node where a walk may end. -/
def EndsOn (r : Registry H) (who : H.Who) (root : NodeId) (words : List String) (s : H.State)
    (path : List NodeId) : Prop :=
  ∃ last rest s' t, r.Descent who root words s path last rest s' ∧ r.Stops last rest s' t

/-- The words lead to a node after which the next word goes to the node `n`, and the player may not
use that. -/
def BarredBy (r : Registry H) (who : H.Who) (root : NodeId) (words : List String) (s : H.State)
    (n : NodeId) : Prop :=
  ∃ path last word rest s' t, r.Descent who root words s path last (word :: rest) s' ∧
    r.firstAccepting word (r.children last) s' = (some n, t) ∧ r.permits t who n = false

/-- Resolving answers what the walk answers, but says in words where it got stuck. -/
theorem resolve_fst (r : Registry H) (who : H.Who) (sigil : String) (root : NodeId)
    (words : List String) (s : H.State) :
    (r.resolve who sigil root words s).1 = (r.walk who root words s).1.mapError fun
      | .denied id => .denied id
      | .stuck id rest => .malformed (r.syntaxError sigil root words id rest) := by
  rw [resolve]
  cases r.walk who root words s with
  | mk answer t =>
    cases answer with
    | ok path => rfl
    | error halt => cases halt <;> rfl

theorem resolve_fst_eq_ok : (r.resolve who sigil root words s).1 = .ok path ↔
    (r.walk who root words s).1 = .ok path := by
  rw [resolve_fst]
  cases (r.walk who root words s).1 <;> simp [Except.mapError]

theorem resolve_fst_eq_denied {n : NodeId} :
    (r.resolve who sigil root words s).1 = .error (.denied n) ↔
      (r.walk who root words s).1 = .error (.denied n) := by
  rw [resolve_fst]
  cases (r.walk who root words s).1 with
  | ok path => simp [Except.mapError]
  | error halt => cases halt <;> simp [Except.mapError]

theorem walk_ok_iff_endsOn :
    (r.walk who root words s).1 = .ok path ↔ r.EndsOn who root words s path := by
  constructor
  · intro h
    obtain ⟨last, rest, s', hdescent, hstops⟩ := walk_eq_ok (Prod.ext h rfl)
    exact ⟨last, rest, s', _, hdescent, hstops⟩
  · rintro ⟨last, rest, s', t, hdescent, hstops⟩
    rw [hdescent.walk_eq (.well hstops), walkAnswer]

theorem walk_denied_iff_barredBy {n : NodeId} :
    (r.walk who root words s).1 = .error (.denied n) ↔ r.BarredBy who root words s n := by
  constructor
  · intro h
    obtain ⟨path, last, rest, s', halt, hdescent, hends, hanswer⟩ :=
      walk_eq_iff.mp (Prod.ext h rfl)
    cases hends with
    | well _ => cases hanswer
    | denied htake hdeny =>
      simp only [walkAnswer, Except.error.injEq, Halt.denied.injEq] at hanswer
      exact ⟨path, last, _, _, s', _, hdescent, hanswer ▸ htake, hanswer ▸ hdeny⟩
    | spent _ _ => cases hanswer
    | unfit _ _ _ => cases hanswer
  · rintro ⟨path, last, word, rest, s', t, hdescent, htake, hdeny⟩
    rw [hdescent.walk_eq (.denied htake hdeny), walkAnswer]

/-- **What resolving answers on any host.** -/
theorem resolve_verdict (r : Registry H) (who : H.Who) (sigil : String) (root : NodeId)
    (words : List String) (s : H.State) :
    Verdict (r.resolve who sigil root words s).1 (r.EndsOn who root words s)
      (r.BarredBy who root words s) :=
  .of_iff (fun _ => resolve_fst_eq_ok.trans walk_ok_iff_endsOn)
    (fun _ => resolve_fst_eq_denied.trans walk_denied_iff_barredBy)

/-! ### Chains in one state -/

/-- Whether a node takes a word in a state. -/
def takes (r : Registry H) (base : H.State) (id : NodeId) (word : String) : Bool :=
  (r.accepts id word base).1

/-- `child` is the first child of a node that takes a word: those declared before it refuse it. -/
def FirstTaker (r : Registry H) (base : H.State) (id : NodeId) (word : String) (child : NodeId) :
    Prop :=
  ∃ before after, r.children id = before ++ child :: after ∧
    (∀ b ∈ before, r.takes base b word = false) ∧ r.takes base child word = true

/-- The first of `words` lead greedily from the node `id` along `path` to the node `last`, where
`rest` is left of them: each word goes to the first child that takes it, and the player may use that
child. -/
inductive Greedy (r : Registry H) (who : H.Who) (base : H.State) :
    NodeId → List String → List NodeId → NodeId → List String → Prop
  /-- No word is placed. -/
  | stay (id : NodeId) (words : List String) : Greedy r who base id words [] id words
  /-- The first word is placed, and the chain goes on from the child it goes to. -/
  | step {id child last : NodeId} {word : String} {words rest : List String} {path : List NodeId}
    (hfirst : r.FirstTaker base id word child) (hpermit : r.permits base who child = true)
    (hrest : Greedy r who base child words path last rest) :
    Greedy r who base id (word :: words) (child :: path) last rest

/-- The path is a greedy chain to a good end: a node without children, or one with a handler where
the words are used up or no child takes the next one. -/
def GreedyEnd (r : Registry H) (who : H.Who) (base : H.State) (root : NodeId) (words : List String)
    (path : List NodeId) : Prop :=
  ∃ last rest, r.Greedy who base root words path last rest ∧
    (r.children last = [] ∨ r.hasHandler last = true ∧
      ∀ word ∈ rest.head?, ∀ c ∈ r.children last, r.takes base c word = false)

/-- After a greedy chain the node `n` is the first to take the next word, and the player may not use
it. -/
def GreedyBar (r : Registry H) (who : H.Who) (base : H.State) (root : NodeId) (words : List String)
    (n : NodeId) : Prop :=
  ∃ path last word rest, r.Greedy who base root words path last (word :: rest) ∧
    r.FirstTaker base last word n ∧ r.permits base who n = false

/-- The first child that takes a word is the first one found. -/
theorem firstTaker_iff : r.FirstTaker base id word child ↔
    (r.children id).find? (r.takes base · word) = some child := by
  rw [List.find?_eq_some_iff_append]
  simp only [FirstTaker, Bool.not_eq_true']
  constructor
  · rintro ⟨before, after, hchildren, hrefuse, htake⟩
    exact ⟨htake, before, after, hchildren, hrefuse⟩
  · rintro ⟨htake, before, after, hchildren, hrefuse⟩
    exact ⟨before, after, hchildren, hrefuse, htake⟩

/-- A node without children is a good end for whatever words are left. -/
theorem greedyEnd_of_leaf (hchildren : r.children root = []) :
    r.GreedyEnd who base root words path ↔ path = [] := by
  constructor
  · rintro ⟨last, rest, hgreedy, -⟩
    cases hgreedy with
    | stay => rfl
    | step hfirst _ _ =>
      obtain ⟨before, after, hsplit, -⟩ := hfirst
      rw [hchildren] at hsplit
      exact absurd hsplit.symm (List.append_ne_nil_of_right_ne_nil before (List.cons_ne_nil _ _))
  · rintro rfl
    exact ⟨root, words, .stay root words, .inl hchildren⟩

/-- A node that has children and no handler is no end: the next word has to go to one of them. -/
theorem greedyEnd_of_inner (hchildren : r.children root ≠ []) (hh : r.hasHandler root = false) :
    r.GreedyEnd who base root words path ↔ ∃ word rest child below, words = word :: rest ∧
      path = child :: below ∧ (r.children root).find? (r.takes base · word) = some child ∧
      r.permits base who child = true ∧ r.GreedyEnd who base child rest below := by
  constructor
  · rintro ⟨last, rest, hgreedy, hend⟩
    cases hgreedy with
    | stay =>
      rcases hend with hleaf | ⟨hhandler, -⟩
      · exact absurd hleaf hchildren
      · rw [hh] at hhandler
        cases hhandler
    | @step _ child _ word words _ below hfirst hpermit hrest =>
      exact ⟨word, words, child, below, rfl, rfl, firstTaker_iff.mp hfirst, hpermit,
        last, rest, hrest, hend⟩
  · rintro ⟨word, rest, child, below, rfl, rfl, hfirst, hpermit, last, left, hrest, hend⟩
    exact ⟨last, left, .step (firstTaker_iff.mpr hfirst) hpermit hrest, hend⟩

/-! ### Steady hosts -/

/-- Whenever a node is asked in a walk that begins in the state `s`, nodes answer as they would in
the state `base`, and what a player may use is decided afterwards as it would be there. -/
structure Steady (r : Registry H) (who : H.Who) (base : H.State) (id : NodeId)
    (words : List String) (s : H.State) : Prop where
  /-- Nodes answer the same. -/
  accepts : ∀ {m}, r.AskedDuring who id words s m → ∀ j word,
    (r.accepts j word m).1 = r.takes base j word
  /-- Predicates decide the same. -/
  permits : ∀ {m}, r.AskedDuring who id words s m → ∀ j word,
    r.permits (r.accepts j word m).2 who j = r.permits base who j

/-- **Hosts are steady** on which the same players are found throughout the walk, if types look at
nothing else and predicates at nothing but the player. -/
theorem Steady.of_sameAnswers
    (htypes : ∀ {j node type}, r.node? j = some node → node.argument.type = .custom type →
      type.Pure)
    (hpredicates : ∀ m t j, r.permits m who j = r.permits t who j)
    (hfound : ∀ {m}, r.AskedDuring who id words s m → H.SameAnswers m base) :
    r.Steady who base id words s where
  accepts {m} hm j word := by
    cases hj : r.node? j with
    | none => rw [takes, Registry.accepts, Registry.accepts, hj]
    | some node =>
      have hvalue := node.argument.accept_congr (fun _ => htypes hj) (hfound hm) r.commandNames word
      rw [takes, accepts_eq hj, accepts_eq hj, hvalue]
  permits _ _ _ := hpredicates _ _ _

/-- Children that answer as in one state are asked until the first that takes the word there. -/
theorem firstAccepting_fst {ids : List NodeId}
    (h : ∀ m ∈ r.askStates word ids s, ∀ j, (r.accepts j word m).1 = r.takes base j word) :
    (r.firstAccepting word ids s).1 = ids.find? (r.takes base · word) := by
  induction ids generalizing s with
  | nil => rfl
  | cons j ids ih =>
    have hj : (r.accepts j word s).1 = r.takes base j word := h s List.mem_cons_self j
    rw [firstAccepting]
    cases haccepts : r.accepts j word s with
    | mk taken s' =>
      rw [haccepts] at hj
      cases taken with
      | true => rw [List.find?_cons, ← hj]
      | false =>
        rw [List.find?_cons, ← hj]
        refine ih fun m hm => h m ?_
        rw [askStates, haccepts]
        exact List.mem_cons_of_mem s hm

namespace Steady

variable (hs : r.Steady who base id (word :: words) s)

include hs

/-- The next word goes to the first child that takes it in the one state. -/
theorem firstAccepting_fst :
    (r.firstAccepting word (r.children id) s).1 =
      (r.children id).find? (r.takes base · word) :=
  Registry.firstAccepting_fst fun _ hm j =>
    hs.accepts ⟨[], id, word, words, s, .stay id _ s, hm⟩ j word

/-- Whether the player may use the child is decided as in the one state. -/
theorem permits_child (htake : r.firstAccepting word (r.children id) s = (some child, t)) :
    r.permits t who child = r.permits base who child := by
  obtain ⟨m, hm, haccepts⟩ := exists_askStates htake
  have hpermits := hs.permits ⟨[], id, word, words, s, .stay id _ s, hm⟩ child word
  rwa [haccepts] at hpermits

/-- The walk that goes on from the child is steady too. -/
theorem below (htake : r.firstAccepting word (r.children id) s = (some child, t))
    (hpermit : r.permits t who child = true) : r.Steady who base child words t := by
  have later : ∀ {m}, r.AskedDuring who child words t m →
      r.AskedDuring who id (word :: words) s m := by
    rintro m ⟨path, last, next, rest, u, hdescent, hm⟩
    exact ⟨child :: path, last, next, rest, u, .step htake hpermit hdescent, hm⟩
  exact ⟨fun hm => hs.accepts (later hm), fun hm => hs.permits (later hm)⟩

end Steady

/-- On a steady host a descent is a greedy chain, and the host stays steady. -/
theorem Descent.greedy (hd : r.Descent who id words s path last rest t)
    (hs : r.Steady who base id words s) :
    r.Greedy who base id words path last rest ∧ r.Steady who base last rest t := by
  induction hd with
  | stay => exact ⟨.stay _ _, hs⟩
  | step htake hpermit _ ih =>
    obtain ⟨hgreedy, hs'⟩ := ih (hs.below htake hpermit)
    have hfirst := hs.firstAccepting_fst
    rw [htake] at hfirst
    rw [hs.permits_child htake] at hpermit
    exact ⟨.step (firstTaker_iff.mpr hfirst.symm) hpermit hgreedy, hs'⟩

/-- On a steady host there is a descent along a greedy chain. -/
theorem Greedy.exists_descent (hg : r.Greedy who base id words path last rest) :
    ∀ {s}, r.Steady who base id words s → ∃ t, r.Descent who id words s path last rest t := by
  induction hg with
  | stay id words => exact fun {s} _ => ⟨s, .stay id words s⟩
  | @step id child _ word _ _ _ hfirst hpermit _ ih =>
    intro s hs
    cases htake : r.firstAccepting word (r.children id) s with
    | mk chosen t =>
      have hchosen := hs.firstAccepting_fst
      rw [htake, firstTaker_iff.mp hfirst] at hchosen
      obtain rfl : chosen = some child := hchosen
      have hpermit' := (hs.permits_child htake).trans hpermit
      obtain ⟨u, hdescent⟩ := ih (hs.below htake hpermit')
      exact ⟨u, .step htake hpermit' hdescent⟩

/-- No child takes the next word just if none takes it in the one state. -/
theorem Steady.firstAccepting_eq_none (hs : r.Steady who base id (word :: words) s) :
    (∃ t, r.firstAccepting word (r.children id) s = (none, t)) ↔
      ∀ c ∈ r.children id, r.takes base c word = false := by
  have hnone : (r.firstAccepting word (r.children id) s).1 = none ↔
      ∀ c ∈ r.children id, r.takes base c word = false := by
    simp [hs.firstAccepting_fst]
  rw [← hnone]
  exact ⟨fun ⟨t, h⟩ => by rw [h], fun h => ⟨_, Prod.ext h rfl⟩⟩

/-- **On a steady host the chains that end well are the greedy ones.** -/
theorem Steady.endsOn_iff (hs : r.Steady who base root words s) :
    r.EndsOn who root words s path ↔ r.GreedyEnd who base root words path := by
  constructor
  · rintro ⟨last, rest, s', t, hdescent, hstops⟩
    obtain ⟨hgreedy, hs'⟩ := hdescent.greedy hs
    refine ⟨last, rest, hgreedy, ?_⟩
    cases hstops with
    | leaf h => exact .inl h
    | spent hh => exact .inr ⟨hh, by simp⟩
    | unfit hh h => exact .inr ⟨hh, by simpa using hs'.firstAccepting_eq_none.mp ⟨_, h⟩⟩
  · rintro ⟨last, rest, hgreedy, hend⟩
    obtain ⟨s', hdescent⟩ := hgreedy.exists_descent hs
    obtain ⟨-, hs'⟩ := hdescent.greedy hs
    rcases hend with hleaf | ⟨hh, hrefuse⟩
    · exact ⟨last, rest, s', s', hdescent, .leaf hleaf⟩
    · cases rest with
      | nil => exact ⟨last, [], s', s', hdescent, .spent hh⟩
      | cons word rest =>
        obtain ⟨t, h⟩ := hs'.firstAccepting_eq_none.mpr (hrefuse word rfl)
        exact ⟨last, word :: rest, s', t, hdescent, .unfit hh h⟩

/-- **On a steady host the nodes that bar the way are those after greedy chains.** -/
theorem Steady.barredBy_iff {n : NodeId} (hs : r.Steady who base root words s) :
    r.BarredBy who root words s n ↔ r.GreedyBar who base root words n := by
  constructor
  · rintro ⟨path, last, word, rest, s', t, hdescent, htake, hdeny⟩
    obtain ⟨hgreedy, hs'⟩ := hdescent.greedy hs
    have hfirst := hs'.firstAccepting_fst
    rw [htake] at hfirst
    rw [hs'.permits_child htake] at hdeny
    exact ⟨path, last, word, rest, hgreedy, firstTaker_iff.mpr hfirst.symm, hdeny⟩
  · rintro ⟨path, last, word, rest, hgreedy, hfirst, hdeny⟩
    obtain ⟨s', hdescent⟩ := hgreedy.exists_descent hs
    obtain ⟨-, hs'⟩ := hdescent.greedy hs
    have htake : r.firstAccepting word (r.children last) s' =
        (some n, (r.firstAccepting word (r.children last) s').2) :=
      Prod.ext (hs'.firstAccepting_fst.trans (firstTaker_iff.mp hfirst)) rfl
    exact ⟨path, last, word, rest, s', _, hdescent, htake,
      (hs'.permits_child htake).trans hdeny⟩

/-! ### What resolving answers -/

/-- **Resolving answers by greedy chains**: it gives the path of one that ends well, or the node
that bars the way after one, and finds fault with the words in all other cases.  A path has no more
nodes than there are words, and with the root before it is the path to its last node. -/
theorem resolve_greedy (hr : r.Reachable) (hroot : root ∈ r.roots) (who : H.Who) (sigil : String)
    (words : List String) (s : H.State) :
    Verdict (r.resolve who sigil root words s).1 (r.EndsOn who root words s)
      (r.BarredBy who root words s) ∧
    (r.Steady who s root words s → Verdict (r.resolve who sigil root words s).1
      (r.GreedyEnd who s root words) (r.GreedyBar who s root words)) ∧
    ∀ path, (r.resolve who sigil root words s).1 = .ok path →
      path.length ≤ words.length ∧ root :: path = r.path (path.getLastD root) := by
  have hverdict := resolve_verdict r who sigil root words s
  refine ⟨hverdict, fun hs => ?_, fun path hpath => ?_⟩
  · exact .of_iff (fun path => (hverdict.path path).trans hs.endsOn_iff)
      (fun n => (hverdict.denied n).trans hs.barredBy_iff)
  · obtain ⟨last, rest, s', t, hdescent, -⟩ := (hverdict.path path).mp hpath
    obtain ⟨node, hnode, hdepth⟩ := mem_roots.mp hroot
    have hparent := hr.wellFormed.parent_eq_none hnode hdepth
    refine ⟨hdescent.length_le, ?_⟩
    rw [← hdescent.last_eq, hdescent.path_eq hr.wellFormed, path_root hnode hparent,
      List.singleton_append]

/-- The command `gate` with the keyword `admin`, which only ann may use, and after it a word of any
kind with a number. -/
def gateTree : Registry (Host.still Unit) :=
  ofSteps [.command (.plain "gate" ""),
    .literal 0 ⟨"admin", "", [], some fun _ who => who == "ann", none, false, none⟩,
    .argument 0 ⟨"word", .string⟩, .argument 2 ⟨"count", .integer none⟩,
    .attach 2 ⟨[.text], .host ()⟩]

/-- Bob may not use the keyword, and it bars his way although the other child would take the word.
Any other word goes to that child, and a second one that is no number is left over. -/
theorem resolve_greedy_gate :
    gateTree.GreedyBar "bob" () 0 ["admin"] 1 ∧
      gateTree.GreedyEnd "bob" () 0 ["open", "wide"] [2] ∧ gateTree.path 2 = [0, 2] := by
  have hroot : 0 ∈ gateTree.roots := by decide +kernel
  have hsteady : ∀ words, gateTree.Steady "bob" () 0 words () :=
    fun _ => ⟨fun _ _ _ => rfl, fun _ _ _ => rfl⟩
  have hbarred : (gateTree.walk "bob" 0 ["admin"] ()).1 = .error (.denied 1) := by decide +kernel
  have hended : (gateTree.walk "bob" 0 ["open", "wide"] ()).1 = .ok [2] := by decide +kernel
  obtain ⟨-, hadmin, -⟩ := resolve_greedy (r := gateTree) ⟨_, rfl⟩ hroot "bob" "-" ["admin"] ()
  obtain ⟨-, hopen, hpath⟩ :=
    resolve_greedy (r := gateTree) ⟨_, rfl⟩ hroot "bob" "-" ["open", "wide"] ()
  have hok : (gateTree.resolve "bob" "-" 0 ["open", "wide"] ()).1 = .ok [2] :=
    resolve_fst_eq_ok.mpr hended
  have hdenied : (gateTree.resolve "bob" "-" 0 ["admin"] ()).1 = .error (.denied 1) :=
    resolve_fst_eq_denied.mpr hbarred
  exact ⟨((hadmin (hsteady _)).denied 1).mp hdenied, ((hopen (hsteady _)).path [2]).mp hok,
    (hpath [2] hok).2.symm⟩

end Registry

end CommandTree
