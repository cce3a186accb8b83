import CommandTree.Proofs.Resolve.Fault

/-!
# Which words a walk looks at

A walk places one word after the other and never looks further ahead than to the word it
is about to place.  So the words after the last one it has looked at may be replaced by
any others, and the answer stays the same.  Which word is the last depends on how the walk
ends: at a node without children it is the last one placed, and where the next word was
offered to children that do not take it, or was taken by one that may not be used, it is
that word.

A walk that ends well can also be cut after the words it has placed.  Cut short it ends in
another way, for there is no word left to be refused, but on the same path.

The host need not be steady for this: with the words that were looked at, the states in
which nodes are asked stay the same too.

## Main results

* `Descent.take_append` — a descent has looked only at the words it has placed.
* `resolve_ok_take` — a good end without the words left over.
* `resolve_lookahead` — what may be replaced, for each way to end.
-/

namespace CommandTree

variable {H : Host}

namespace Registry

variable {r : Registry H} {who : H.Who} {sigil word : String} {id root last n : NodeId}
  {words rest : List String} {path : List NodeId} {s t : H.State} {e : SyntaxError}

/-! ### Answers with the state they leave -/

theorem resolve_eq_ok_iff : r.resolve who sigil root words s = (.ok path, t) ↔
    r.walk who root words s = (.ok path, t) := by
  rw [Prod.ext_iff, Prod.ext_iff, resolve_snd, resolve_fst_eq_ok]

theorem resolve_eq_denied_iff : r.resolve who sigil root words s = (.error (.denied n), t) ↔
    r.walk who root words s = (.error (.denied n), t) := by
  rw [Prod.ext_iff, Prod.ext_iff, resolve_snd, resolve_fst_eq_denied]

theorem resolve_eq_malformed_iff :
    r.resolve who sigil root words s = (.error (.malformed e), t) ↔
      ∃ n rest, r.walk who root words s = (.error (.stuck n rest), t) ∧
        e = r.syntaxError sigil root words n rest := by
  simp only [Prod.ext_iff, resolve_snd, resolve_fst_eq_malformed]
  constructor
  · rintro ⟨⟨n, rest, hwalk, he⟩, ht⟩
    exact ⟨n, rest, ⟨hwalk, ht⟩, he⟩
  · rintro ⟨n, rest, ⟨hwalk, ht⟩, he⟩
    exact ⟨⟨n, rest, hwalk, he⟩, ht⟩

/-! ### Other words after those placed -/

/-- **A descent has looked only at the words it has placed**: it leaves any others over. -/
theorem Descent.take_append (h : r.Descent who id words s path last rest t)
    (other : List String) :
    r.Descent who id (words.take path.length ++ other) s path last other t := by
  induction h with
  | stay id words s => exact .stay id other s
  | step htake hpermit _ ih => exact .step htake hpermit ih

/-- The words placed and the next one, if there is one. -/
theorem Descent.take_succ (h : r.Descent who id words s path last (word :: rest) t) :
    words.take (path.length + 1) = words.take path.length ++ [word] := by
  obtain ⟨placed, rfl, hlength⟩ := h.words_eq
  rw [← hlength, List.take_left, List.take_length_add_append, List.take_succ_cons, List.take_zero]

/-- A descent that has looked at the next word too leaves it over with any others after it. -/
theorem Descent.take_succ_append (h : r.Descent who id words s path last (word :: rest) t)
    (other : List String) :
    r.Descent who id (words.take (path.length + 1) ++ other) s path last (word :: other) t := by
  rw [h.take_succ, List.append_assoc]
  exact h.take_append (word :: other)

/-! ### The ways to end -/

/-- **A good end needs no words but those placed.** -/
theorem resolve_ok_take (h : (r.resolve who sigil root words s).1 = .ok path) :
    (r.resolve who sigil root (words.take path.length) s).1 = .ok path := by
  obtain ⟨last, rest, s', t, hdescent, hstops⟩ :=
    walk_ok_iff_endsOn.mp (resolve_fst_eq_ok.mp h)
  have hcut := hdescent.take_append []
  rw [List.append_nil] at hcut
  refine resolve_fst_eq_ok.mpr (walk_ok_iff_endsOn.mpr ⟨last, [], s', s', hcut, ?_⟩)
  cases hstops with
  | leaf hleaf => exact .leaf hleaf
  | spent hh => exact .spent hh
  | unfit hh _ => exact .spent hh

/-- Nothing is asked at a node without children. -/
theorem Stops.eq_of_leaf (h : r.Stops id rest s t) (hleaf : r.children id = []) : s = t := by
  cases h with
  | leaf _ => rfl
  | spent _ => rfl
  | unfit _ hfirst =>
    rw [hleaf, firstAccepting] at hfirst
    exact (Prod.mk.inj hfirst).2

/-- A walk that has come to a node without children looks at no other words. -/
theorem resolve_of_leaf (h : r.resolve who sigil root words s = (.ok path, t))
    (hleaf : r.children (path.getLastD root) = []) (other : List String) :
    r.resolve who sigil root (words.take path.length ++ other) s = (.ok path, t) := by
  obtain ⟨last, rest, s', hdescent, hstops⟩ := walk_eq_ok (resolve_eq_ok_iff.mp h)
  rw [← hdescent.last_eq] at hleaf
  obtain rfl := hstops.eq_of_leaf hleaf
  exact resolve_eq_ok_iff.mpr ((hdescent.take_append other).walk_eq (.well (.leaf hleaf)))

/-- A walk that ends well because no child takes the next word looks no further than to that. -/
theorem resolve_of_unfit (h : r.resolve who sigil root words s = (.ok path, t))
    (hchildren : r.children (path.getLastD root) ≠ []) (hnext : path.length < words.length)
    (other : List String) :
    r.resolve who sigil root (words.take (path.length + 1) ++ other) s = (.ok path, t) := by
  obtain ⟨last, rest, s', hdescent, hstops⟩ := walk_eq_ok (resolve_eq_ok_iff.mp h)
  rw [← hdescent.last_eq] at hchildren
  cases hstops with
  | leaf hleaf => exact absurd hleaf hchildren
  | spent _ =>
    -- All words would have been placed.
    obtain ⟨placed, rfl, hlength⟩ := hdescent.words_eq
    rw [List.append_nil, hlength] at hnext
    exact absurd hnext (Nat.lt_irrefl _)
  | unfit hh hfirst =>
    exact resolve_eq_ok_iff.mpr
      ((hdescent.take_succ_append other).walk_eq (.well (.unfit hh hfirst)))

/-- A word that is refused is refused whatever follows it. -/
theorem resolve_of_refused (h : r.resolve who sigil root words s = (.error (.malformed e), t))
    (hword : e.token = some word) (other : List String) :
    r.resolve who sigil root (words.take (e.consumed.length + 1) ++ other) s =
      (.error (.malformed { e with remaining := other }), t) := by
  obtain ⟨n, rest, hwalk, rfl⟩ := resolve_eq_malformed_iff.mp h
  obtain ⟨path, last, left, s', halt, hdescent, hends, hanswer⟩ := walk_eq_iff.mp hwalk
  cases hends with
  | well _ => cases hanswer
  | denied _ _ => cases hanswer
  | spent _ _ =>
    cases hanswer
    cases hword
  | @unfit next after _ _ hchildren hh hfirst =>
    cases hanswer
    obtain ⟨placed, rfl, hlength⟩ := hdescent.words_eq
    have hwalk' := (hdescent.take_succ_append other).walk_eq (.unfit hchildren hh hfirst)
    have htake : (placed ++ next :: after).take (path.length + 1) = placed ++ [next] := by
      rw [hdescent.take_succ, ← hlength, List.take_left]
    refine resolve_eq_malformed_iff.mpr ⟨n, next :: other, ?_, ?_⟩
    · rw [syntaxError_append, hlength]
      exact hwalk'
    · rw [syntaxError_append]
      show _ = r.syntaxError sigil root
        ((placed ++ next :: after).take (placed.length + 1) ++ other) n (next :: other)
      rw [hlength, htake, List.append_assoc, List.singleton_append, syntaxError_append]
      rfl

/-- A word that a forbidden node takes is denied whatever follows it.  It is the last of the words
on the way to that node. -/
theorem resolve_of_denied (hr : r.WellFormed) (hroot : r.path root = [root])
    (h : r.resolve who sigil root words s = (.error (.denied n), t)) :
    ∃ k, (r.path n).length = k + 2 ∧ k < words.length ∧ ∀ other,
      r.resolve who sigil root (words.take (k + 1) ++ other) s = (.error (.denied n), t) := by
  obtain ⟨path, last, rest, s', halt, hdescent, hends, hanswer⟩ :=
    walk_eq_iff.mp (resolve_eq_denied_iff.mp h)
  cases hends with
  | well _ => cases hanswer
  | spent _ _ => cases hanswer
  | unfit _ _ _ => cases hanswer
  | @denied child next after _ _ htake hdeny =>
    cases hanswer
    refine ⟨path.length, ?_, ?_, fun other => ?_⟩
    · rw [path_of_mem_children hr (firstAccepting_mem htake), hdescent.path_eq hr, hroot]
      simp
    · obtain ⟨placed, rfl, hlength⟩ := hdescent.words_eq
      rw [← hlength, List.length_append, List.length_cons]
      omega
    · exact resolve_eq_denied_iff.mpr
        ((hdescent.take_succ_append other).walk_eq (.denied htake hdeny))

/-- **The answer depends on the words that were looked at alone.**  A path is found again without
the words left over.  At a node without children these may be replaced by any others; where the next
word fits no child, is refused or leads to a node that may not be used, so may the words after it,
which a report then shows as they are. -/
theorem resolve_lookahead (hr : r.Reachable) (hroot : root ∈ r.roots) (who : H.Who)
    (sigil : String) (words : List String) (s : H.State) :
    (∀ path t, r.resolve who sigil root words s = (.ok path, t) →
      (r.resolve who sigil root (words.take path.length) s).1 = .ok path ∧
      (r.children (path.getLastD root) = [] → ∀ other,
        r.resolve who sigil root (words.take path.length ++ other) s = (.ok path, t)) ∧
      (r.children (path.getLastD root) ≠ [] → path.length < words.length → ∀ other,
        r.resolve who sigil root (words.take (path.length + 1) ++ other) s = (.ok path, t))) ∧
    (∀ e t word, r.resolve who sigil root words s = (.error (.malformed e), t) →
      e.token = some word → ∀ other,
        r.resolve who sigil root (words.take (e.consumed.length + 1) ++ other) s =
          (.error (.malformed { e with remaining := other }), t)) ∧
    ∀ n t, r.resolve who sigil root words s = (.error (.denied n), t) →
      ∃ k, (r.path n).length = k + 2 ∧ k < words.length ∧ ∀ other,
        r.resolve who sigil root (words.take (k + 1) ++ other) s = (.error (.denied n), t) := by
  have hwf := hr.wellFormed
  obtain ⟨node, hnode, hdepth⟩ := mem_roots.mp hroot
  have hpath := path_root hnode (hwf.parent_eq_none hnode hdepth)
  refine ⟨fun path t h => ⟨resolve_ok_take (congrArg Prod.fst h), ?_, ?_⟩, ?_, ?_⟩
  · exact resolve_of_leaf h
  · exact resolve_of_unfit h
  · exact fun e t word h hword => resolve_of_refused h hword
  · exact fun n t h => resolve_of_denied hwf hpath h

/-- A number after an open gate is the last word looked at, and so is a word in its place that is
none.  At the closed keyword nothing is looked at any more, and a vote of too great a weight is
refused with whatever comes after it. -/
theorem resolve_lookahead_gate :
    gateTree.resolve "bob" "-" 0 ["open", "5", "later"] () = (.ok [2, 3], ()) ∧
    gateTree.resolve "bob" "-" 0 ["open", "wide", "later"] () = (.ok [2], ()) ∧
    gateTree.resolve "bob" "-" 0 ["admin", "later"] () = (.error (.denied 1), ()) ∧
    voteTree.resolve "bob" "-" 0 ["true", "9", "later"] () =
      (.error (.malformed ⟨"-vote", ["true"], some "9", ["later"],
        .expected "\"9\" should be an integer between 1 and 3"⟩), ()) := by
  have hgate : 0 ∈ gateTree.roots := by decide +kernel
  have hvote : 0 ∈ voteTree.roots := by decide +kernel
  -- The same words with other ones after them.
  have hnumber : gateTree.resolve "bob" "-" 0 ["open", "5", "now"] () = (.ok [2, 3], ()) :=
    resolve_eq_ok_iff.mpr (Prod.ext (by decide +kernel) rfl)
  have hwide : gateTree.resolve "bob" "-" 0 ["open", "wide"] () = (.ok [2], ()) :=
    resolve_eq_ok_iff.mpr (Prod.ext (by decide +kernel) rfl)
  have hadmin : gateTree.resolve "bob" "-" 0 ["admin"] () = (.error (.denied 1), ()) :=
    resolve_eq_denied_iff.mpr (Prod.ext (by decide +kernel) rfl)
  have hrefused : voteTree.resolve "bob" "-" 0 ["true", "9"] () =
      (.error (.malformed (voteTree.syntaxError "-" 0 ["true", "9"] 1 ["9"])), ()) :=
    resolve_eq_malformed_iff.mpr ⟨1, ["9"], Prod.ext (by decide +kernel) rfl, rfl⟩
  have hreport : voteTree.syntaxError "-" 0 ["true", "9"] 1 ["9"] =
      ⟨"-vote", ["true"], some "9", [],
        .expected "\"9\" should be an integer between 1 and 3"⟩ := by
    decide +kernel
  rw [hreport] at hrefused
  obtain ⟨hopen, -, -⟩ := resolve_lookahead (r := gateTree) ⟨_, rfl⟩ hgate "bob" "-"
    ["open", "5", "now"] ()
  obtain ⟨hunfit, -, -⟩ := resolve_lookahead (r := gateTree) ⟨_, rfl⟩ hgate "bob" "-"
    ["open", "wide"] ()
  obtain ⟨-, -, hdenied⟩ := resolve_lookahead (r := gateTree) ⟨_, rfl⟩ hgate "bob" "-" ["admin"] ()
  obtain ⟨-, hmalformed, -⟩ := resolve_lookahead (r := voteTree) ⟨_, rfl⟩ hvote "bob" "-"
    ["true", "9"] ()
  refine ⟨(hopen _ _ hnumber).2.1 (by decide +kernel) ["later"],
    (hunfit _ _ hwide).2.2 (by decide +kernel) (by decide) ["later"], ?_,
    hmalformed _ _ "9" hrefused rfl ["later"]⟩
  obtain ⟨k, hk, -, hsame⟩ := hdenied _ _ hadmin
  have hpath : (gateTree.path 1).length = 2 := by decide +kernel
  obtain rfl : k = 0 := by omega
  exact hsame ["later"]

end Registry

end CommandTree
