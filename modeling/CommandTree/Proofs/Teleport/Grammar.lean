import CommandTree.Proofs.Teleport.Tree

/-!
# The words of the teleport command

The tree of the teleport command has dozens of nodes.  Seen from outside it is a small
language: the name of a player, or else a place with one of four ways to decide the view
after it.  The alternatives overlap, and a walk never goes back.  Still little is lost:
the words for yes and no are no integers, and the keyword is neither, so that only the
name of a player can take a word away from a place.

## Main definitions

* `Coordinate.StandsFor` — what a word stands for on an axis.
* `Places`, `Looks`, `Sends` — the words that the command takes, and what they mean.
* `Registry.isLine` — a row of nodes, each the only child of the one before.
* `TeleportTask.way` — the nodes that the words for a task lead to.

## Main results

* `Coordinate.standsFor_iff`, `places_iff` — words for a place, as they are read and resolved.
* `greedyEnd_line` — the words along a row of nodes.
* `greedyEnd_facing`, `greedyEnd_place`, `greedyEnd_root` — **the words of the tree**.
* `Sends.walk_eq`, `walk_eq_stuck` — what a walk answers.
-/

namespace CommandTree

open Registry

/-! ### Coordinates -/

namespace Coordinate

/-- A word stands for a number on an axis, given where the player is on it and how they look. -/
inductive StandsFor (position view : Float) (word : String) : Float → Prop
  /-- A number stands for itself. -/
  | absolute {v : Float} (hnumber : readFinite? word.toList = some v) :
    StandsFor position view word v
  /-- After a tilde there is an offset from the position. -/
  | relative {cs : List Char} {delta : Float} (hmark : word.toList = '~' :: cs)
    (hoffset : readOffset? cs = some delta) : StandsFor position view word (position + delta)
  /-- After a caret there is an offset from the direction of view. -/
  | view {cs : List Char} {delta : Float} (hmark : word.toList = '^' :: cs)
    (hoffset : readOffset? cs = some delta) : StandsFor position view word (view + delta)

/-- No number begins with one of the marks. -/
theorem readFinite?_mark {mark : Char} (hmark : mark = '~' ∨ mark = '^') (cs : List Char) :
    readFinite? (mark :: cs) = none := by
  have hletter : ∀ word ∈ ["inf", "infinity", "nan"],
      String.ofList ((mark :: cs).map Char.toLower) ≠ word := by
    intro word hword heq
    have htext := congrArg String.toList heq
    rw [String.toList_ofList, List.map_cons] at htext
    rcases hmark with rfl | rfl <;> fin_cases hword <;> simp at htext
  have hsign : Decimal.signSplit (mark :: cs) = (false, mark :: cs) := by
    rcases hmark with rfl | rfl <;> rfl
  have hnumber : Decimal.readNumber? false (mark :: cs) = none := by
    rcases hmark with rfl | rfl <;> simp [Decimal.readNumber?, Decimal.isDigit]
  simp only [readFinite?, Decimal.readFloat?, hsign, hletter "inf" (by simp),
    hletter "infinity" (by simp), hletter "nan" (by simp), or_self, if_false, hnumber,
    Option.filter_none]

/-- **A word stands for what it is read as**, resolved where the player is. -/
theorem standsFor_iff {position view v : Float} {word : String} :
    StandsFor position view word v ↔ ∃ c, read? word = some c ∧ c.resolve position view = v := by
  constructor
  · rintro (hnumber | ⟨hmark, hoffset⟩ | ⟨hmark, hoffset⟩)
    · refine ⟨.absolute v, ?_, rfl⟩
      rw [read?]
      split
      · next hword =>
        rw [hword, readFinite?_mark (.inl rfl)] at hnumber
        cases hnumber
      · next hword =>
        rw [hword, readFinite?_mark (.inr rfl)] at hnumber
        cases hnumber
      · rw [hnumber, Option.map_some]
    · refine ⟨.relative _, ?_, rfl⟩
      simp only [read?, hmark, hoffset, Option.map_some]
    · refine ⟨.view _, ?_, rfl⟩
      simp only [read?, hmark, hoffset, Option.map_some]
  · rintro ⟨c, hread, rfl⟩
    rw [read?] at hread
    split at hread
    · next hmark =>
      obtain ⟨delta, hoffset, rfl⟩ := Option.map_eq_some_iff.mp hread
      exact .relative hmark hoffset
    · next hmark =>
      obtain ⟨delta, hoffset, rfl⟩ := Option.map_eq_some_iff.mp hread
      exact .view hmark hoffset
    · obtain ⟨v, hnumber, rfl⟩ := Option.map_eq_some_iff.mp hread
      exact .absolute hnumber

end Coordinate

/-! ### The language -/

/-- The three words stand for a place, axis by axis, as the player stands and looks. -/
structure Places (w : World) (who x y z : String) (p : Point) : Prop where
  east : Coordinate.StandsFor (w.poseOf who).location.x (w.poseOf who).view.x x p.x
  up : Coordinate.StandsFor (w.poseOf who).location.y (w.poseOf who).view.y y p.y
  south : Coordinate.StandsFor (w.poseOf who).location.z (w.poseOf who).view.z z p.z

theorem places_iff {w : World} {who x y z : String} {p : Point} : Places w who x y z p ↔
    ∃ cx cy cz, Coordinate.read? x = some cx ∧ Coordinate.read? y = some cy ∧
      Coordinate.read? z = some cz ∧
      locate cx cy cz (w.poseOf who).location (w.poseOf who).view = p := by
  constructor
  · rintro ⟨heast, hup, hsouth⟩
    obtain ⟨cx, hx, heast⟩ := Coordinate.standsFor_iff.mp heast
    obtain ⟨cy, hy, hup⟩ := Coordinate.standsFor_iff.mp hup
    obtain ⟨cz, hz, hsouth⟩ := Coordinate.standsFor_iff.mp hsouth
    refine ⟨cx, cy, cz, hx, hy, hz, ?_⟩
    rw [locate, heast, hup, hsouth]
  · rintro ⟨cx, cy, cz, hx, hy, hz, rfl⟩
    exact ⟨Coordinate.standsFor_iff.mpr ⟨cx, hx, rfl⟩, Coordinate.standsFor_iff.mpr ⟨cy, hy, rfl⟩,
      Coordinate.standsFor_iff.mpr ⟨cz, hz, rfl⟩⟩

/-- The words after a place, by what decides the view, and how the player then faces. -/
inductive Looks (w : World) (who : String) : Gaze → List String → Orientation → Prop
  /-- Nothing: the view stays. -/
  | keep {blocks : String} (hblocks : IsSwitch blocks) : Looks w who .keep [blocks] .keep
  /-- Two angles. -/
  | rotate {yaw pitch blocks : String} {i j : Int} (hyaw : Decimal.readInt? yaw.toList = some i)
    (hpitch : Decimal.readInt? pitch.toList = some j) (hblocks : IsSwitch blocks) :
    Looks w who .rotate [yaw, pitch, blocks] ⟨none, some (i, j)⟩
  /-- A player to look at. -/
  | atPlayer {other blocks : String} (hother : w.isOnline other = true)
    (hblocks : IsSwitch blocks) :
    Looks w who .atPlayer ["facing", other, blocks] ⟨some (w.poseOf other).location, none⟩
  /-- A place to look at; its first word is not the name of a player. -/
  | atPlace {x y z blocks : String} {p : Point} (hx : w.isOnline x = false)
    (hplace : Places w who x y z p) (hblocks : IsSwitch blocks) :
    Looks w who .atPlace ["facing", x, y, z, blocks] ⟨some p, none⟩

/-- The words that send a player somewhere, with the task that does so, the place, and how the
player then faces. -/
inductive Sends (w : World) (who : String) :
    TeleportTask → List String → Point → Orientation → Prop
  /-- The name of a player. -/
  | toPlayer {name : String} (hname : w.isOnline name = true) :
    Sends w who (.toPlayer .sender) [name] (w.poseOf name).location .keep
  /-- A place, its first word not being the name of a player, and what decides the view. -/
  | toPlace {x y z : String} {p : Point} {gaze : Gaze} {tail : List String} {o : Orientation}
    (hx : w.isOnline x = false) (hplace : Places w who x y z p) (hlook : Looks w who gaze tail o) :
    Sends w who (.toPlace .sender gaze) (x :: y :: z :: tail) p o

theorem IsSwitch.readInt?_eq {word : String} (h : IsSwitch word) :
    Decimal.readInt? word.toList = none := by
  rcases h with rfl | rfl <;> decide +kernel

theorem IsSwitch.ne_facing {word : String} (h : IsSwitch word) : word ≠ "facing" := by
  rcases h with rfl | rfl <;> decide

theorem readInt?_facing : Decimal.readInt? "facing".toList = none := by
  decide +kernel

/-! ### Rows of nodes -/

namespace Registry

variable {H : Host} {r : Registry H} {who : H.Who} {base : H.State}

/-- After a node that has an only child and no handler the next word has to go to that child. -/
theorem greedyEnd_only {id next : NodeId} {words : List String} {path : List NodeId}
    (hchildren : r.children id = [next]) (hh : r.hasHandler id = false)
    (hpermits : r.permits base who next = true) :
    r.GreedyEnd who base id words path ↔ ∃ word rest below, words = word :: rest ∧
      path = next :: below ∧ r.takes base next word = true ∧
      r.GreedyEnd who base next rest below := by
  have hfirst : ∀ word child, (r.children id).find? (r.takes base · word) = some child ↔
      child = next ∧ r.takes base next word = true := by
    intro word child
    rw [hchildren, List.find?_singleton]
    cases r.takes base next word <;> simp [eq_comm]
  rw [greedyEnd_of_inner (by simp [hchildren]) hh]
  constructor
  · rintro ⟨word, rest, child, below, rfl, rfl, hchild, -, hbelow⟩
    obtain ⟨rfl, htake⟩ := (hfirst word child).mp hchild
    exact ⟨word, rest, below, rfl, rfl, htake, hbelow⟩
  · rintro ⟨word, rest, below, rfl, rfl, htake, hbelow⟩
    exact ⟨word, rest, next, below, rfl, rfl, (hfirst word next).mpr ⟨rfl, htake⟩, hpermits, hbelow⟩

/-- Whether the nodes stand below the first one in a row: each is the only child of the one before,
which has no handler, and the last one has no children. -/
def isLine (r : Registry H) : NodeId → List NodeId → Bool
  | id, [] => (r.children id).isEmpty
  | id, next :: ids => r.children id == [next] && !r.hasHandler id && r.isLine next ids

/-- **The words along a row of nodes** go to one node each, whatever comes after them. -/
theorem greedyEnd_line {ids : List NodeId} {id : NodeId} {words : List String}
    {path : List NodeId} (hline : r.isLine id ids = true)
    (hpermits : ∀ j ∈ ids, r.permits base who j = true) :
    r.GreedyEnd who base id words path ↔ path = ids ∧ ∃ placed rest, words = placed ++ rest ∧
      List.Forall₂ (fun j word => r.takes base j word = true) ids placed := by
  induction ids generalizing id words path with
  | nil =>
    rw [greedyEnd_of_leaf (List.isEmpty_iff.mp hline)]
    refine ⟨fun h => ⟨h, [], words, rfl, .nil⟩, fun h => h.1⟩
  | cons next ids ih =>
    simp only [isLine, Bool.and_eq_true, beq_iff_eq, Bool.not_eq_true'] at hline
    obtain ⟨⟨hchildren, hh⟩, hline⟩ := hline
    have hrest : ∀ {words path}, r.GreedyEnd who base next words path ↔ _ :=
      ih hline fun j hj => hpermits j (List.mem_cons_of_mem _ hj)
    rw [greedyEnd_only hchildren hh (hpermits next List.mem_cons_self)]
    constructor
    · rintro ⟨word, words, below, rfl, rfl, htake, hbelow⟩
      obtain ⟨rfl, placed, rest, rfl, hplaced⟩ := hrest.mp hbelow
      exact ⟨rfl, word :: placed, rest, rfl, .cons htake hplaced⟩
    · rintro ⟨rfl, placed, rest, rfl, hplaced⟩
      cases hplaced with
      | @cons _ word _ placed htake hplaced =>
        exact ⟨word, placed ++ rest, ids, rfl, rfl, htake,
          hrest.mpr ⟨rfl, placed, rest, rfl, hplaced⟩⟩

end Registry

/-! ### The ways of words -/

/-- The nodes after a place, by what decides the view. -/
def Gaze.way : Gaze → List NodeId
  | .keep => [5]
  | .rotate => [6, 7, 8]
  | .atPlayer => [9, 10, 11]
  | .atPlace => [9, 12, 13, 14, 15]

/-- The nodes of a task that moves the sender. -/
def TeleportTask.way : TeleportTask → List NodeId
  | .toPlayer _ => [1]
  | .toPlace _ gaze => [2, 3, 4] ++ gaze.way

theorem TeleportTask.exists_node? {task : TeleportTask} {id : NodeId} (h : id ∈ task.way) :
    ∃ node, teleportTree.node? id = some node := by
  have hway : ∀ j ∈ task.way, j < 33 := by
    rcases task with (_ | _) | ⟨_ | _, _ | _ | _ | _⟩ <;> decide
  exact exists_node?_of_lt (survey_teleportTree.1.symm ▸ hway id h)

/-- The rows of nodes. -/
theorem survey_lines :
    teleportTree.isLine 1 [] = true ∧ teleportTree.isLine 5 [] = true ∧
      teleportTree.isLine 6 [7, 8] = true ∧ teleportTree.isLine 10 [11] = true ∧
      teleportTree.isLine 12 [13, 14, 15] = true := by
  simp [isLine, children, hasHandler, handler?, node?_teleportTree, teleportNodes]

theorem exists_places {w : World} {who x y z : String} : (∃ p, Places w who x y z p) ↔
    (Coordinate.read? x).isSome = true ∧ (Coordinate.read? y).isSome = true ∧
      (Coordinate.read? z).isSome = true := by
  simp only [places_iff, Option.isSome_iff_exists]
  constructor
  · rintro ⟨p, cx, cy, cz, hx, hy, hz, -⟩
    exact ⟨⟨cx, hx⟩, ⟨cy, hy⟩, cz, hz⟩
  · rintro ⟨⟨cx, hx⟩, ⟨cy, hy⟩, cz, hz⟩
    exact ⟨_, cx, cy, cz, hx, hy, hz, rfl⟩

section Language

variable {w : World} {who : String} {words : List String} {path : List NodeId}

theorem takes_switch_iff {id : NodeId} (hid : id ∈ [5, 8, 11, 15]) (word : String) :
    teleportTree.takes w id word = true ↔ IsSwitch word := by
  rw [takes_switch hid, decide_eq_true_eq]

variable (hop : World.host.isOp w who = true)

include hop

/-- The words after an angle. -/
theorem greedyEnd_angle : teleportTree.GreedyEnd who w 6 words path ↔
    path = [7, 8] ∧ ∃ pitch blocks rest, words = pitch :: blocks :: rest ∧
      (Decimal.readInt? pitch.toList).isSome = true ∧ IsSwitch blocks := by
  obtain ⟨-, -, hline, -, -⟩ := survey_lines
  rw [greedyEnd_line hline fun j hj => permits_teleportTree hop (by fin_cases hj <;> decide)]
  simp only [List.forall₂_cons_left_iff, List.forall₂_nil_left_iff,
    takes_integer (show (7 : NodeId) ∈ [6, 7] by decide),
    takes_switch_iff (show (8 : NodeId) ∈ [5, 8, 11, 15] by decide)]
  refine and_congr_right fun _ => ⟨?_, ?_⟩
  · rintro ⟨_, rest, rfl, pitch, _, hpitch, ⟨blocks, _, hblocks, rfl, rfl⟩, rfl⟩
    exact ⟨pitch, blocks, rest, rfl, hpitch, hblocks⟩
  · rintro ⟨pitch, blocks, rest, rfl, hpitch, hblocks⟩
    exact ⟨[pitch, blocks], rest, rfl, pitch, _, hpitch, ⟨blocks, [], hblocks, rfl, rfl⟩, rfl⟩

/-- The words after the name of a player to look at. -/
theorem greedyEnd_player : teleportTree.GreedyEnd who w 10 words path ↔
    path = [11] ∧ ∃ blocks rest, words = blocks :: rest ∧ IsSwitch blocks := by
  obtain ⟨-, -, -, hline, -⟩ := survey_lines
  rw [greedyEnd_line hline fun j hj => permits_teleportTree hop (by fin_cases hj; decide)]
  simp only [List.forall₂_cons_left_iff, List.forall₂_nil_left_iff,
    takes_switch_iff (show (11 : NodeId) ∈ [5, 8, 11, 15] by decide)]
  refine and_congr_right fun _ => ⟨?_, ?_⟩
  · rintro ⟨_, rest, rfl, blocks, _, hblocks, rfl, rfl⟩
    exact ⟨blocks, rest, rfl, hblocks⟩
  · rintro ⟨blocks, rest, rfl, hblocks⟩
    exact ⟨[blocks], rest, rfl, blocks, [], hblocks, rfl, rfl⟩

/-- The words after the first coordinate of a place to look at. -/
theorem greedyEnd_axis : teleportTree.GreedyEnd who w 12 words path ↔
    path = [13, 14, 15] ∧ ∃ y z blocks rest, words = y :: z :: blocks :: rest ∧
      (Coordinate.read? y).isSome = true ∧ (Coordinate.read? z).isSome = true ∧
      IsSwitch blocks := by
  obtain ⟨-, -, -, -, hline⟩ := survey_lines
  rw [greedyEnd_line hline fun j hj => permits_teleportTree hop (by fin_cases hj <;> decide)]
  simp only [List.forall₂_cons_left_iff, List.forall₂_nil_left_iff,
    takes_axis (show (13 : NodeId) ∈ [2, 3, 4, 12, 13, 14] by decide),
    takes_axis (show (14 : NodeId) ∈ [2, 3, 4, 12, 13, 14] by decide),
    takes_switch_iff (show (15 : NodeId) ∈ [5, 8, 11, 15] by decide)]
  refine and_congr_right fun _ => ⟨?_, ?_⟩
  · rintro ⟨_, rest, rfl, y, _, hy, ⟨z, _, hz, ⟨blocks, _, hblocks, rfl, rfl⟩, rfl⟩, rfl⟩
    exact ⟨y, z, blocks, rest, rfl, hy, hz, hblocks⟩
  · rintro ⟨y, z, blocks, rest, rfl, hy, hz, hblocks⟩
    exact ⟨[y, z, blocks], rest, rfl, y, _, hy,
      ⟨z, _, hz, ⟨blocks, [], hblocks, rfl, rfl⟩, rfl⟩, rfl⟩

/-- The words after the keyword: a player to look at, or a place. -/
theorem greedyEnd_facing : teleportTree.GreedyEnd who w 9 words path ↔
    ∃ gaze tail rest o, words = tail ++ rest ∧ Looks w who gaze ("facing" :: tail) o ∧
      9 :: path = gaze.way := by
  obtain ⟨-, -, -, -, hchildren, hhandlers⟩ := survey_forks
  rw [greedyEnd_of_inner (by simp [hchildren]) (hhandlers 9 (by decide))]
  constructor
  · rintro ⟨word, words, child, below, rfl, rfl, hchild, -, hbelow⟩
    rw [find?_facing] at hchild
    split at hchild
    · next honline =>
      obtain rfl : 10 = child := Option.some.inj hchild
      obtain ⟨rfl, blocks, rest, rfl, hblocks⟩ := (greedyEnd_player hop).mp hbelow
      exact ⟨.atPlayer, [word, blocks], rest, _, rfl, .atPlayer honline hblocks, rfl⟩
    · next honline =>
      split at hchild
      · next hx =>
        obtain rfl : 12 = child := Option.some.inj hchild
        obtain ⟨rfl, y, z, blocks, rest, rfl, hy, hz, hblocks⟩ := (greedyEnd_axis hop).mp hbelow
        obtain ⟨p, hplace⟩ : ∃ p, Places w who word y z p := exists_places.mpr ⟨hx, hy, hz⟩
        exact ⟨.atPlace, [word, y, z, blocks], rest, _, rfl,
          .atPlace (Bool.eq_false_iff.mpr honline) hplace hblocks, rfl⟩
      · cases hchild
  · rintro ⟨gaze, tail, rest, o, rfl, hlooks, hpath⟩
    -- The keyword itself is neither a word for yes or no nor an angle.
    cases hlooks with
    | keep hblocks => exact absurd rfl hblocks.ne_facing
    | rotate hyaw _ _ =>
      rw [readInt?_facing] at hyaw
      cases hyaw
    | @atPlayer other blocks hother hblocks =>
      obtain rfl := (List.cons.inj hpath).2
      refine ⟨other, blocks :: rest, 10, [11], rfl, rfl, ?_,
        permits_teleportTree hop (by decide), (greedyEnd_player hop).mpr ⟨rfl, _, _, rfl, hblocks⟩⟩
      rw [find?_facing, if_pos hother]
    | @atPlace x y z blocks p hx hplace hblocks =>
      obtain rfl := (List.cons.inj hpath).2
      obtain ⟨hreadx, hready, hreadz⟩ := exists_places.mp ⟨p, hplace⟩
      refine ⟨x, y :: z :: blocks :: rest, 12, [13, 14, 15], rfl, rfl, ?_,
        permits_teleportTree hop (by decide),
        (greedyEnd_axis hop).mpr ⟨rfl, _, _, _, _, rfl, hready, hreadz, hblocks⟩⟩
      rw [find?_facing, hx, if_neg Bool.false_ne_true, if_pos hreadx]

/-- **The words after a place** are those that decide the view. -/
theorem greedyEnd_place : teleportTree.GreedyEnd who w 4 words path ↔
    ∃ gaze tail rest o, words = tail ++ rest ∧ Looks w who gaze tail o ∧ path = gaze.way := by
  obtain ⟨-, -, -, hchildren, -, hhandlers⟩ := survey_forks
  obtain ⟨-, hleaf, -⟩ := survey_lines
  rw [greedyEnd_of_inner (by simp [hchildren]) (hhandlers 4 (by decide))]
  constructor
  · rintro ⟨word, words, child, below, rfl, rfl, hchild, -, hbelow⟩
    rw [find?_place] at hchild
    split at hchild
    · next hblocks =>
      obtain rfl : 5 = child := Option.some.inj hchild
      rw [greedyEnd_of_leaf (List.isEmpty_iff.mp hleaf)] at hbelow
      exact ⟨.keep, [word], words, _, rfl, .keep hblocks, by rw [hbelow]; rfl⟩
    · split at hchild
      · next hyaw =>
        obtain rfl : 6 = child := Option.some.inj hchild
        obtain ⟨rfl, pitch, blocks, rest, rfl, hpitch, hblocks⟩ := (greedyEnd_angle hop).mp hbelow
        obtain ⟨i, hi⟩ := Option.isSome_iff_exists.mp hyaw
        obtain ⟨j, hj⟩ := Option.isSome_iff_exists.mp hpitch
        exact ⟨.rotate, [word, pitch, blocks], rest, _, rfl, .rotate hi hj hblocks, rfl⟩
      · split at hchild
        · next hfacing =>
          obtain rfl : 9 = child := Option.some.inj hchild
          obtain ⟨gaze, tail, rest, o, rfl, hlooks, hpath⟩ := (greedyEnd_facing hop).mp hbelow
          exact ⟨gaze, word :: tail, rest, o, rfl, hfacing ▸ hlooks, hpath⟩
        · cases hchild
  · rintro ⟨gaze, tail, rest, o, rfl, hlooks, rfl⟩
    -- Both forms after the keyword go on from its node.
    have hfacing : ∀ {gaze tail o below}, Looks w who gaze ("facing" :: tail) o →
        gaze.way = 9 :: below → ∃ word left child path, "facing" :: tail ++ rest = word :: left ∧
          gaze.way = child :: path ∧
          (teleportTree.children 4).find? (teleportTree.takes w · word) = some child ∧
          teleportTree.permits w who child = true ∧
          teleportTree.GreedyEnd who w child left path := by
      intro gaze tail o below hlooks hway
      refine ⟨"facing", tail ++ rest, 9, below, rfl, hway, ?_,
        permits_teleportTree hop (by decide),
        (greedyEnd_facing hop).mpr ⟨gaze, tail, rest, o, rfl, hlooks, hway.symm⟩⟩
      have hno : ¬(Decimal.readInt? "facing".toList).isSome = true := by
        rw [readInt?_facing]
        exact Bool.false_ne_true
      rw [find?_place, if_neg (by decide), if_neg hno, if_pos rfl]
    cases hlooks with
    | @keep blocks hblocks =>
      refine ⟨blocks, rest, 5, [], rfl, rfl, ?_, permits_teleportTree hop (by decide),
        (greedyEnd_of_leaf (List.isEmpty_iff.mp hleaf)).mpr rfl⟩
      rw [find?_place, if_pos hblocks]
    | @rotate yaw pitch blocks i j hyaw hpitch hblocks =>
      refine ⟨yaw, pitch :: blocks :: rest, 6, [7, 8], rfl, rfl, ?_,
        permits_teleportTree hop (by decide), (greedyEnd_angle hop).mpr
          ⟨rfl, pitch, blocks, rest, rfl, Option.isSome_iff_exists.mpr ⟨j, hpitch⟩, hblocks⟩⟩
      have hno : ¬IsSwitch yaw := fun h => by simp [h.readInt?_eq] at hyaw
      rw [find?_place, if_neg hno, if_pos (Option.isSome_iff_exists.mpr ⟨i, hyaw⟩)]
    | atPlayer hother hblocks => exact hfacing (.atPlayer hother hblocks) rfl
    | atPlace hx hplace hblocks => exact hfacing (.atPlace hx hplace hblocks) rfl

/-- The words after the first coordinate of a place to go to. -/
theorem greedyEnd_destination : teleportTree.GreedyEnd who w 2 words path ↔
    ∃ y z rest below, words = y :: z :: rest ∧ path = 3 :: 4 :: below ∧
      (Coordinate.read? y).isSome = true ∧ (Coordinate.read? z).isSome = true ∧
      teleportTree.GreedyEnd who w 4 rest below := by
  obtain ⟨-, hy, hz, -, -, hhandlers⟩ := survey_forks
  have hlast : ∀ {words path}, teleportTree.GreedyEnd who w 3 words path ↔ _ :=
    greedyEnd_only hz (hhandlers 3 (by decide)) (permits_teleportTree hop (by decide))
  rw [greedyEnd_only hy (hhandlers 2 (by decide)) (permits_teleportTree hop (by decide))]
  simp only [hlast, takes_axis (show (3 : NodeId) ∈ [2, 3, 4, 12, 13, 14] by decide),
    takes_axis (show (4 : NodeId) ∈ [2, 3, 4, 12, 13, 14] by decide)]
  constructor
  · rintro ⟨y, _, _, rfl, rfl, hready, z, rest, below, rfl, rfl, hreadz, hbelow⟩
    exact ⟨y, z, rest, below, rfl, rfl, hready, hreadz, hbelow⟩
  · rintro ⟨y, z, rest, below, rfl, rfl, hready, hreadz, hbelow⟩
    exact ⟨y, _, _, rfl, rfl, hready, z, rest, below, rfl, rfl, hreadz, hbelow⟩

/-- **The words of the command**, and the nodes that they lead to. -/
theorem greedyEnd_root : teleportTree.GreedyEnd who w 0 words path ↔
    ∃ task form rest p o, words = form ++ rest ∧ Sends w who task form p o ∧ path = task.way := by
  obtain ⟨hchildren, -, -, -, -, hhandlers⟩ := survey_forks
  obtain ⟨hleaf, -⟩ := survey_lines
  rw [greedyEnd_of_inner (by simp [hchildren]) (hhandlers 0 (by decide))]
  constructor
  · rintro ⟨word, words, child, below, rfl, rfl, hchild, -, hbelow⟩
    rw [find?_root] at hchild
    split at hchild
    · next honline =>
      obtain rfl : 1 = child := Option.some.inj hchild
      rw [greedyEnd_of_leaf (List.isEmpty_iff.mp hleaf)] at hbelow
      exact ⟨.toPlayer .sender, [word], words, _, _, rfl, .toPlayer honline, by rw [hbelow]; rfl⟩
    · next honline =>
      split at hchild
      · next hx =>
        obtain rfl : 2 = child := Option.some.inj hchild
        obtain ⟨y, z, rest, below, rfl, rfl, hy, hz, hbelow⟩ :=
          (greedyEnd_destination hop).mp hbelow
        obtain ⟨gaze, tail, rest, o, rfl, hlooks, rfl⟩ := (greedyEnd_place hop).mp hbelow
        obtain ⟨p, hplace⟩ : ∃ p, Places w who word y z p := exists_places.mpr ⟨hx, hy, hz⟩
        exact ⟨.toPlace .sender gaze, word :: y :: z :: tail, rest, p, o, rfl,
          .toPlace (Bool.eq_false_iff.mpr honline) hplace hlooks, rfl⟩
      · cases hchild
  · rintro ⟨task, form, rest, p, o, rfl, hsends, rfl⟩
    cases hsends with
    | @toPlayer name hname =>
      refine ⟨name, rest, 1, [], rfl, rfl, ?_, permits_teleportTree hop (by decide),
        (greedyEnd_of_leaf (List.isEmpty_iff.mp hleaf)).mpr rfl⟩
      rw [find?_root, if_pos hname]
    | @toPlace x y z p gaze tail o hx hplace hlooks =>
      obtain ⟨hreadx, hready, hreadz⟩ := exists_places.mp ⟨p, hplace⟩
      refine ⟨x, y :: z :: (tail ++ rest), 2, 3 :: 4 :: gaze.way, rfl, rfl, ?_,
        permits_teleportTree hop (by decide), (greedyEnd_destination hop).mpr
          ⟨y, z, tail ++ rest, gaze.way, rfl, rfl, hready, hreadz,
            (greedyEnd_place hop).mpr ⟨gaze, tail, rest, o, rfl, hlooks, rfl⟩⟩⟩
      rw [find?_root, hx, if_neg Bool.false_ne_true, if_pos hreadx]

/-- Nothing bars the way. -/
theorem not_greedyBar {id : NodeId} : ¬teleportTree.GreedyBar who w 0 words id := by
  rintro ⟨path, last, word, rest, -, hfirst, hdeny⟩
  obtain ⟨before, after, -, -, htake⟩ := hfirst
  have hid : id < 33 := by
    cases hnode : teleportTree.node? id with
    | none =>
      rw [takes, accepts, hnode] at htake
      cases htake
    | some node => exact survey_teleportTree.1 ▸ node?_lt hnode
  rw [permits_teleportTree hop hid] at hdeny
  cases hdeny

/-- A walk ends well with the nodes that the words lead to, or there is a mistake in them. -/
theorem walk_teleportTree (words : List String) :
    (∀ path, teleportTree.walk who 0 words w = (.ok path, w) ↔
      teleportTree.GreedyEnd who w 0 words path) ∧
    ((∀ path, ¬teleportTree.GreedyEnd who w 0 words path) →
      ∃ id rest, teleportTree.walk who 0 words w = (.error (.stuck id rest), w)) := by
  have hsteady := still_teleportTree.steady who 0 words w
  have hstate : (teleportTree.walk who 0 words w).2 = w :=
    still_teleportTree.eq_of_asked (walk_asked (r := teleportTree) words 0 w)
  have hanswer : ∀ path, (teleportTree.walk who 0 words w).1 = .ok path ↔
      teleportTree.GreedyEnd who w 0 words path :=
    fun path => walk_ok_iff_endsOn.trans hsteady.endsOn_iff
  refine ⟨fun path => ?_, fun hnone => ?_⟩
  · rw [← hanswer]
    exact ⟨fun h => congrArg Prod.fst h, fun h => Prod.ext h hstate⟩
  · cases hwalk : (teleportTree.walk who 0 words w).1 with
    | ok path => exact absurd ((hanswer path).mp hwalk) (hnone path)
    | error halt =>
      cases halt with
      | denied id =>
        have hbarred := hsteady.barredBy_iff.mp (walk_denied_iff_barredBy.mp hwalk)
        exact absurd hbarred (not_greedyBar hop)
      | stuck id rest => exact ⟨id, rest, Prod.ext hwalk hstate⟩

/-- **Words for a task lead to its nodes**, whatever comes after them. -/
theorem Sends.walk_eq {task : TeleportTask} {form : List String} {p : Point} {o : Orientation}
    (h : Sends w who task form p o) (rest : List String) :
    teleportTree.walk who 0 (form ++ rest) w = (.ok task.way, w) :=
  ((walk_teleportTree hop _).1 _).mpr
    ((greedyEnd_root hop).mpr ⟨task, form, rest, p, o, rfl, h, rfl⟩)

/-- **Other words get stuck.** -/
theorem walk_eq_stuck (h : ∀ task form p o, form <+: words → ¬Sends w who task form p o) :
    ∃ id rest, teleportTree.walk who 0 words w = (.error (.stuck id rest), w) := by
  refine (walk_teleportTree hop words).2 fun path hend => ?_
  obtain ⟨task, form, rest, p, o, rfl, hsends, -⟩ := (greedyEnd_root hop).mp hend
  exact h task form p o (List.prefix_append form rest) hsends

end Language

end CommandTree
