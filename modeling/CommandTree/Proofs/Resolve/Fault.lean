import CommandTree.Proofs.Dispatch.Course
import CommandTree.Proofs.Dispatch.Selection
import CommandTree.Proofs.Resolve.Greedy

/-!
# Where words go wrong

Words are at fault in one place only.  Those before it lead to a node that has children
but no handler, and there either the words are used up or no child takes the next one.
The report that a player gets cuts the words at this place, bears the command's own name
whatever other name was typed, and says what could have stood there: in the words of the
only child if there is one and a word that it refuses, else by listing all children.

All this can be said of the report without the walk, and no other report is given.

## Main definitions

* `Hint.Tells` — a hint says what could have stood at a place.
* `Registry.StuckAt` — the place where a walk cannot go on, with what is left of the words.
* `Registry.Pinpoints` — a report says where the words went wrong, and why.
* `Registry.GreedyFault` — the place, said in one state of the host.

## Main results

* `walk_stuck_iff_stuckAt` — where a walk gets stuck.
* `resolve_malformed_iff_pinpoints` — the report given is the one that pinpoints the place.
* `StuckAt.greedyFault` — on a steady host the place is the end of a greedy chain.
* `resolve_pinpoints` — all of it, and what a dispatch reports.
-/

namespace CommandTree

variable {H : Host}

/-! ### Hints -/

/-- The hint says what could have stood in place of a word, or of no word, where these arguments
were possible.  It is the rejection of the only one if there is one and a word, and in all other
cases it lists every argument, keywords by themselves and others by their types. -/
structure Hint.Tells (hint : Hint) (arguments : List (Argument H)) (token : Option String) :
    Prop where
  /-- The only argument explains why it refuses the word. -/
  expected : ∀ text, hint = .expected text ↔
    ∃ only word, arguments = [only] ∧ token = some word ∧ text = only.reject word
  /-- All arguments are listed, under the name of the first. -/
  candidates : ∀ name types, hint = .candidates name types ↔
    (¬∃ only word, arguments = [only] ∧ token = some word) ∧
      (∃ first others, arguments = first :: others ∧ name = first.name) ∧
      types = arguments.map fun a => if a.isLiteral then a.name else a.typeName

/-- There is one hint at most that tells it. -/
theorem Hint.Tells.unique {hint other : Hint} {arguments : List (Argument H)}
    {token : Option String} (h : hint.Tells arguments token) (h' : other.Tells arguments token) :
    hint = other := by
  cases hint with
  | expected text => exact ((h'.expected text).mpr ((h.expected text).mp rfl)).symm
  | candidates name types =>
    exact ((h'.candidates name types).mpr ((h.candidates name types).mp rfl)).symm

/-- The only argument there was tells it by its rejection. -/
theorem Hint.tells_expected (only : Argument H) (word : String) :
    (Hint.expected (only.reject word)).Tells [only] (some word) where
  expected text := by
    constructor
    · rintro ⟨⟩
      exact ⟨only, word, rfl, rfl, rfl⟩
    · rintro ⟨_, _, ⟨⟩, ⟨⟩, rfl⟩
      rfl
  candidates name types := by
    constructor
    · exact nofun
    · rintro ⟨hmany, -⟩
      exact absurd ⟨only, word, rfl, rfl⟩ hmany

/-- Where there was more than one, or no word to refuse, the list of all tells it. -/
theorem Hint.tells_candidates {first : Argument H} {others : List (Argument H)}
    {token : Option String}
    (hmany : ¬∃ only word, first :: others = [only] ∧ token = some word) :
    (Hint.candidates first.name ((first :: others).map Argument.choiceWord)).Tells
      (first :: others) token where
  expected text := by
    constructor
    · exact nofun
    · rintro ⟨only, word, honly, hword, -⟩
      exact absurd ⟨only, word, honly, hword⟩ hmany
  candidates name types := by
    constructor
    · rintro ⟨⟩
      exact ⟨hmany, ⟨first, others, rfl, rfl⟩, rfl⟩
    · rintro ⟨-, ⟨_, _, ⟨⟩, rfl⟩, rfl⟩
      rfl

namespace Registry

variable {r : Registry H} {who : H.Who} {sigil : String} {root id n : NodeId}
  {words rest : List String} {base s t : H.State} {e : SyntaxError}

/-- Every child of a node has an argument. -/
theorem map_children_argument (hr : r.WellFormed) (id : NodeId) :
    ((r.children id).map fun c => (r.node? c).map Node.argument) =
      (r.childArguments id).map some := by
  rw [childArguments, List.map_filterMap_some_eq_filter_map_isSome]
  refine (List.filter_eq_self.mpr fun a ha => ?_).symm
  obtain ⟨c, hc, rfl⟩ := List.mem_map.mp ha
  obtain ⟨node, hnode, -⟩ := node?_of_mem_children hr hc
  rw [hnode]
  rfl

theorem childArguments_ne_nil (hr : r.WellFormed) (h : r.children id ≠ []) :
    r.childArguments id ≠ [] := by
  intro hnil
  have hmap := map_children_argument hr id
  rw [hnil, List.map_nil, List.map_eq_nil_iff] at hmap
  exact h hmap

/-- **The hint at a node with children tells what could have stood there.** -/
theorem hint_tells (hr : r.WellFormed) (h : r.children id ≠ []) (token : Option String) :
    (r.hint id token).Tells (r.childArguments id) token := by
  have hne := childArguments_ne_nil hr h
  unfold hint
  generalize r.childArguments id = arguments at hne ⊢
  match arguments, token with
  | [only], some word => exact Hint.tells_expected only word
  | [only], none => exact Hint.tells_candidates nofun
  | first :: second :: others, token => exact Hint.tells_candidates nofun

/-! ### Stuck walks -/

/-- The words lead to the node `n`, where `rest` is left of them, and the walk cannot go on: there
are children but no handler, and the next word, if there is one, fits no child. -/
def StuckAt (r : Registry H) (who : H.Who) (root : NodeId) (words : List String) (s : H.State)
    (n : NodeId) (rest : List String) : Prop :=
  ∃ path t, r.Descent who root words s path n rest t ∧ r.children n ≠ [] ∧
    r.hasHandler n = false ∧ ∀ word ∈ rest.head?, (r.firstAccepting word (r.children n) t).1 = none

/-- **Where a walk gets stuck.** -/
theorem walk_stuck_iff_stuckAt :
    (r.walk who root words s).1 = .error (.stuck n rest) ↔ r.StuckAt who root words s n rest := by
  constructor
  · intro h
    obtain ⟨path, last, left, s', halt, hdescent, hends, hanswer⟩ :=
      walk_eq_iff.mp (Prod.ext h rfl)
    cases hends with
    | well _ => cases hanswer
    | denied _ _ => cases hanswer
    | spent hchildren hh =>
      cases hanswer
      exact ⟨path, _, hdescent, hchildren, hh, nofun⟩
    | unfit hchildren hh hfirst =>
      cases hanswer
      refine ⟨path, s', hdescent, hchildren, hh, ?_⟩
      rintro _ ⟨⟩
      rw [hfirst]
  · rintro ⟨path, t, hdescent, hchildren, hh, hrefuse⟩
    cases rest with
    | nil => rw [hdescent.walk_eq (.spent hchildren hh), walkAnswer]
    | cons word rest =>
      have hfirst : r.firstAccepting word (r.children n) t = (none, _) :=
        Prod.ext (hrefuse word rfl) rfl
      rw [hdescent.walk_eq (.unfit hchildren hh hfirst), walkAnswer]

theorem resolve_fst_eq_malformed :
    (r.resolve who sigil root words s).1 = .error (.malformed e) ↔
      ∃ n rest, (r.walk who root words s).1 = .error (.stuck n rest) ∧
        e = r.syntaxError sigil root words n rest := by
  rw [resolve_fst]
  cases (r.walk who root words s).1 with
  | ok path => simp [Except.mapError]
  | error halt => cases halt <;> simp [Except.mapError, eq_comm]

/-! ### Reports -/

/-- What is reported of words that are divided at a node. -/
theorem syntaxError_append (r : Registry H) (sigil : String) (root : NodeId)
    (placed : List String) (n : NodeId) (rest : List String) :
    r.syntaxError sigil root (placed ++ rest) n rest =
      ⟨sigil ++ r.nameOf root, placed, rest.head?, rest.drop 1, r.hint n rest.head?⟩ := by
  rw [syntaxError, List.length_append, Nat.add_sub_cancel, List.take_left]

/-- The report says where the words went wrong: it cuts them at the node `n`, where the walk cannot
go on, and tells what could have stood there. -/
structure Pinpoints (r : Registry H) (who : H.Who) (sigil : String) (root : NodeId)
    (words : List String) (s : H.State) (e : SyntaxError) (n : NodeId) : Prop where
  /-- The words consumed lead to the node, one for each step, and the walk cannot go on with the
  others. -/
  stuck : ∃ path t, r.Descent who root words s path n (e.token.toList ++ e.remaining) t ∧
    path.length = e.consumed.length ∧
    ∀ word ∈ e.token, (r.firstAccepting word (r.children n) t).1 = none
  /-- The node has children. -/
  children : r.children n ≠ []
  /-- It has no handler. -/
  idle : r.hasHandler n = false
  /-- The words consumed, the word refused and the words after it are all the words. -/
  divided : e.consumed ++ e.token.toList ++ e.remaining = words
  /-- No word is refused just if all of them led to the node. -/
  ended : e.token = none ↔ e.consumed = words
  /-- Then none is left. -/
  nothing : e.token = none → e.remaining = []
  /-- The command is shown by its own name. -/
  command : ∃ node, r.node? root = some node ∧ e.command = sigil ++ node.data.name
  /-- The hint tells what the children of the node would have taken, in order of declaration. -/
  hint : ∃ arguments, ((r.children n).map fun c => (r.node? c).map Node.argument) =
    arguments.map some ∧ e.hint.Tells arguments e.token

/-- The report of a walk that got stuck says where. -/
theorem StuckAt.pinpoints (h : r.StuckAt who root words s n rest) (hr : r.WellFormed)
    {node : Node H} (hroot : r.node? root = some node) (sigil : String) :
    r.Pinpoints who sigil root words s (r.syntaxError sigil root words n rest) n := by
  obtain ⟨path, t, hdescent, hchildren, hh, hrefuse⟩ := h
  obtain ⟨placed, rfl, hlength⟩ := hdescent.words_eq
  have hrest : rest.head?.toList ++ rest.drop 1 = rest := by cases rest <;> rfl
  rw [syntaxError_append]
  constructor
  case stuck => exact ⟨path, t, hrest.symm ▸ hdescent, hlength.symm, hrefuse⟩
  case children => exact hchildren
  case idle => exact hh
  case divided => rw [List.append_assoc, hrest]
  case ended => rw [List.head?_eq_none_iff, List.self_eq_append_right]
  case nothing =>
    intro hnone
    obtain rfl : rest = [] := List.head?_eq_none_iff.mp hnone
    rfl
  case command => exact ⟨node, hroot, by rw [nameOf, hroot]; rfl⟩
  case hint => exact ⟨r.childArguments n, map_children_argument hr n, hint_tells hr hchildren _⟩

/-- A report that says where the words went wrong is the report of a walk that got stuck there. -/
theorem Pinpoints.stuckAt (h : r.Pinpoints who sigil root words s e n) (hr : r.WellFormed) :
    r.StuckAt who root words s n (e.token.toList ++ e.remaining) ∧
      e = r.syntaxError sigil root words n (e.token.toList ++ e.remaining) := by
  obtain ⟨path, t, hdescent, -, hrefuse⟩ := h.stuck
  obtain ⟨node, hnode, hcommand⟩ := h.command
  obtain ⟨arguments, harguments, htells⟩ := h.hint
  have hhead : (e.token.toList ++ e.remaining).head? = e.token := by
    cases htoken : e.token with
    | none => rw [h.nothing htoken]; rfl
    | some word => rfl
  have hdrop : (e.token.toList ++ e.remaining).drop 1 = e.remaining := by
    cases htoken : e.token with
    | none => rw [h.nothing htoken]; rfl
    | some word => rfl
  refine ⟨⟨path, t, hdescent, h.children, h.idle, by rwa [hhead]⟩, ?_⟩
  -- The hint told of these children is the only one.
  have hhint : r.hint n e.token = e.hint := by
    rw [map_children_argument hr n] at harguments
    rw [← List.map_injective_iff.mpr (fun _ _ => Option.some.inj) harguments] at htells
    exact (hint_tells hr h.children e.token).unique htells
  have hname : sigil ++ r.nameOf root = e.command := by
    rw [nameOf, hnode, hcommand]
    rfl
  rw [← h.divided, List.append_assoc, syntaxError_append, hhead, hdrop, hhint, hname]

/-- **The report given is the one that says where the words went wrong.** -/
theorem resolve_malformed_iff_pinpoints (hr : r.WellFormed) {node : Node H}
    (hroot : r.node? root = some node) :
    (r.resolve who sigil root words s).1 = .error (.malformed e) ↔
      ∃ n, r.Pinpoints who sigil root words s e n := by
  rw [resolve_fst_eq_malformed]
  constructor
  · rintro ⟨n, rest, hwalk, rfl⟩
    exact ⟨n, (walk_stuck_iff_stuckAt.mp hwalk).pinpoints hr hroot sigil⟩
  · rintro ⟨n, hpinpoints⟩
    obtain ⟨hstuck, he⟩ := hpinpoints.stuckAt hr
    exact ⟨n, _, walk_stuck_iff_stuckAt.mpr hstuck, he⟩

/-! ### Steady hosts -/

/-- A greedy chain leads to the node `n`, where `rest` is left of the words, and ends badly: there
are children but no handler, and no child takes the next word, if there is one. -/
def GreedyFault (r : Registry H) (who : H.Who) (base : H.State) (root : NodeId)
    (words : List String) (n : NodeId) (rest : List String) : Prop :=
  ∃ path, r.Greedy who base root words path n rest ∧ r.children n ≠ [] ∧
    r.hasHandler n = false ∧ ∀ word ∈ rest.head?, ∀ c ∈ r.children n, r.takes base c word = false

/-- On a steady host walks get stuck after greedy chains. -/
theorem StuckAt.greedyFault (h : r.StuckAt who root words s n rest)
    (hs : r.Steady who base root words s) : r.GreedyFault who base root words n rest := by
  obtain ⟨path, t, hdescent, hchildren, hh, hrefuse⟩ := h
  obtain ⟨hgreedy, hs'⟩ := hdescent.greedy hs
  refine ⟨path, hgreedy, hchildren, hh, ?_⟩
  cases rest with
  | nil => exact nofun
  | cons word rest =>
    rintro _ ⟨⟩
    exact hs'.firstAccepting_eq_none.mp ⟨_, Prod.ext (hrefuse word rfl) rfl⟩

end Registry

/-! ### What a dispatch reports -/

namespace Dispatcher

variable {d : Dispatcher H} {who : H.Who} {text name : String} {args : List String}
  {s s' : Session H} {root : NodeId} {e : SyntaxError}

/-- Choosing a command finds no fault with words. -/
theorem select_ne_malformed : d.select who name s ≠ (.error (.malformed e), s') := by
  rw [select]
  repeat' split
  all_goals simp

/-- A command that ends with a report on its words has been given this report when they were
resolved. -/
theorem resolve_of_malformed (hw : d.words? text = some (name, args))
    (hroot : d.registry.findRoot? name = some root)
    (h : (d.dispatch who text s).outcome = .failed (.malformed e)) :
    (d.registry.resolve who d.sigil root args s.host).1 = .error (.malformed e) := by
  have hcourse := dispatch_course d who text s
  generalize d.dispatch who text s = x at hcourse h
  cases hcourse with
  | ignored _ => cases h
  | refused _ hs =>
    cases h
    exact absurd hs select_ne_malformed
  | @unresolved name' args' root' s₁ failure h' hw' hs hr =>
    cases h
    -- The words, the command and the state are those the report is about.
    obtain ⟨rfl, rfl⟩ := Prod.mk.inj (Option.some.inj (hw.symm.trans hw'))
    obtain ⟨node, hselected⟩ := select_eq_ok hs
    obtain rfl := Option.some.inj (hroot.symm.trans hselected.found)
    have hhost := select_host d who name s
    rw [hs] at hhost
    rw [← hhost]
    rw [resolve] at hr
    cases hresolve : d.registry.resolve who d.sigil root args s₁.host with
    | mk answer t =>
      rw [hresolve] at hr
      cases answer with
      | ok path => cases hr
      | error unresolved =>
        cases unresolved with
        | malformed e' => cases hr; rfl
        | denied n => cases hn : d.registry.node? n <;> simp [hn] at hr
  | gone _ _ _ _ => cases h
  | incomplete _ _ _ _ _ => cases h
  | @called a _ =>
    rcases call_outcome_cases d who a.root a.node a.handler (d.values who a) (d.calling who a) with
      hx | ⟨ending, hx⟩
    · rw [tell_outcome, hx] at h
      cases h
    · rw [tell_outcome, hx] at h
      cases ending <;> cases h

end Dispatcher

/-! ### Reports and places -/

namespace Registry

variable {r : Registry H} {root : NodeId}

/-- **A report on words says exactly where they went wrong.**  It is given just if it pinpoints the
place, which on a steady host is the end of a greedy chain; and what a player is told whose message
reaches the command, by its name or by an alias, pinpoints the place too. -/
theorem resolve_pinpoints (hr : r.Reachable) (hroot : root ∈ r.roots) (who : H.Who)
    (sigil : String) (words : List String) (s : H.State) :
    (∀ e, (r.resolve who sigil root words s).1 = .error (.malformed e) ↔
      ∃ n, r.Pinpoints who sigil root words s e n) ∧
    (r.Steady who s root words s → ∀ e n, r.Pinpoints who sigil root words s e n →
      r.GreedyFault who s root words n (e.token.toList ++ e.remaining)) ∧
    ∀ program score text name (st : Session H) e,
      let d : Dispatcher H := ⟨r, sigil, program, score⟩
      d.words? text = some (name, words) → r.findRoot? name = some root → st.host = s →
      (d.dispatch who text st).outcome = .failed (.malformed e) →
      ∃ n, r.Pinpoints who sigil root words s e n := by
  have hwf := hr.wellFormed
  obtain ⟨node, hnode, -⟩ := mem_roots.mp hroot
  refine ⟨fun e => resolve_malformed_iff_pinpoints hwf hnode, fun hs e n h => ?_, ?_⟩
  · exact (h.stuckAt hwf).1.greedyFault hs
  · intro program score text name st e d hw hfound hst h
    subst hst
    have hresolve : (r.resolve who sigil root words st.host).1 = .error (.malformed e) :=
      Dispatcher.resolve_of_malformed hw hfound h
    exact (resolve_malformed_iff_pinpoints hwf hnode).mp hresolve

/-- The command `vote <motion> <weight>`, also called `v`, with a weight from one to three. -/
def voteTree : Registry (Host.still Unit) :=
  ofSteps [.command ⟨"vote", "", ["v"], none, none, false, none⟩, .argument 0 ⟨"motion", .boolean⟩,
    .argument 1 ⟨"weight", .integer (some (1, 3))⟩, .attach 2 ⟨[.boolean, .integer], .host ()⟩]

/-- A weight too high is refused after the motion, whatever follows it, and the command is shown by
its own name although its alias was typed. -/
theorem resolve_pinpoints_vote :
    let d : Dispatcher (Host.still Unit) :=
      ⟨voteTree, "-", fun _ _ _ s => ⟨.done, 0, s⟩, fun _ _ => none⟩
    let e : SyntaxError := ⟨"-vote", ["true"], some "9", ["times"],
      .expected "\"9\" should be an integer between 1 and 3"⟩
    (d.dispatch "ann" "-v true 9 times" (.start ())).outcome = .failed (.malformed e) ∧
    ∃ n, voteTree.Pinpoints "ann" "-" 0 ["true", "9", "times"] () e n ∧
      voteTree.GreedyFault "ann" () 0 ["true", "9", "times"] n ["9", "times"] := by
  intro d e
  have hroot : 0 ∈ voteTree.roots := by decide +kernel
  have hw : d.words? "-v true 9 times" = some ("v", ["true", "9", "times"]) := by decide +kernel
  have hfound : voteTree.findRoot? "v" = some 0 := by decide +kernel
  have htold : (d.dispatch "ann" "-v true 9 times" (.start ())).outcome =
      .failed (.malformed e) := by
    decide +kernel
  have hsteady : voteTree.Steady "ann" () 0 ["true", "9", "times"] () :=
    ⟨fun _ _ _ => rfl, fun _ _ _ => rfl⟩
  obtain ⟨-, hgreedy, hdispatch⟩ :=
    resolve_pinpoints (r := voteTree) ⟨_, rfl⟩ hroot "ann" "-" ["true", "9", "times"] ()
  obtain ⟨n, hn⟩ := hdispatch _ _ "-v true 9 times" "v" (.start ()) e hw hfound rfl htold
  exact ⟨htold, n, hn, hgreedy hsteady e n hn⟩

end Registry

end CommandTree
