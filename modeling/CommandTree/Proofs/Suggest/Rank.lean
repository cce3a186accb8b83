import CommandTree.Suggest.Rank
import Mathlib.Data.List.Sort

/-!
# The best names

A name may be known more than once, so names are told apart by their positions.  The
positions of the names that match have one order that puts better ones first and, among
equally good ones, the earlier first.  What is offered is the beginning of this order,
however much of it is asked for, and nothing depends on how points are given.

## Main definitions

* `entryAt?` — the name at a position with its points.
* `Ahead` — one position is before another in the order.
* `ranking` — the positions of all names that match, in this order.

## Main results

* `pairwise_mergeSort_of_pairwise` — sorting leaves equals in the order they had.
* `pairwise_ranking` — the ranking is in order.
* `map_rank` — **what is offered is the beginning of the ranking**.
* `rank_best` — what is offered and what is left out.
-/

namespace CommandTree.Suggest

/-! ### Sorting -/

/-- **Sorting leaves equals in the order they had**: whatever held between items and later ones
still does, if they are equally good. -/
theorem pairwise_mergeSort_of_pairwise {α : Type} {le : α → α → Bool} {r : α → α → Prop}
    (trans : ∀ a b c, le a b = true → le b c = true → le a c = true)
    (total : ∀ a b, (le a b || le b a) = true) {l : List α} (h : l.Pairwise r) :
    (l.mergeSort le).Pairwise fun a b => le a b = true ∧ (le b a = true → r a b) := by
  rw [List.pairwise_iff_forall_sublist]
  intro a b hab
  have hle : le a b = true :=
    List.pairwise_iff_forall_sublist.mp (List.pairwise_mergeSort trans total l) hab
  refine ⟨hle, fun hba => ?_⟩
  -- The items as good as `a` are sorted already, so they keep their order.
  let equal : α → Bool := fun x => le a x && le x a
  have hsorted : (l.filter equal).Pairwise fun x y => le x y = true := by
    refine List.pairwise_of_forall_mem_list fun x hx y hy => ?_
    have hx := (List.mem_filter.mp hx).2
    have hy := (List.mem_filter.mp hy).2
    simp only [equal, Bool.and_eq_true] at hx hy
    exact trans x a y hx.2 hy.1
  have hequal : (l.mergeSort le).filter equal = l.filter equal := by
    have hsub := (List.sublist_mergeSort trans total hsorted List.filter_sublist).filter equal
    have hperm := (List.mergeSort_perm l le).filter equal
    simp only [List.filter_filter, Bool.and_self] at hsub
    exact (hsub.eq_of_length hperm.length_eq.symm).symm
  have hrefl : le a a = true := by simpa using total a a
  have hpair : [a, b].filter equal = [a, b] := by simp [equal, hrefl, hle, hba]
  have hsub : [a, b].Sublist (l.filter equal) := hequal ▸ hpair ▸ hab.filter equal
  exact List.pairwise_iff_forall_sublist.mp h (hsub.trans List.filter_sublist)

/-! ### Positions -/

/-- The name at a position with its points; none if there is no name or it has no points. -/
def entryAt? (score : String → Option Nat) (names : List String) (i : Nat) :
    Option (String × Nat) :=
  names[i]?.bind fun name => (score name).map fun points => (name, points)

/-- One position is before another in the order: its name is better, or it is as good and stands
earlier. -/
def Ahead (score : String → Option Nat) (names : List String) (i j : Nat) : Prop :=
  ∃ a b, entryAt? score names i = some a ∧ entryAt? score names j = some b ∧
    (b.2 < a.2 ∨ (a.2 = b.2 ∧ i < j))

/-- The positions of the names that match. -/
def matching (score : String → Option Nat) (names : List String) : List Nat :=
  (List.range names.length).filter fun i => (entryAt? score names i).isSome

/-- Whether one entry is at least as good as another; no entry is like one without points. -/
def atLeast (a b : Option (String × Nat)) : Bool :=
  (b.map Prod.snd).getD 0 ≤ (a.map Prod.snd).getD 0

/-- The positions of the names that match, better ones first. -/
def ranking (score : String → Option Nat) (names : List String) : List Nat :=
  (matching score names).mergeSort fun i j =>
    atLeast (entryAt? score names i) (entryAt? score names j)

variable {score : String → Option Nat} {names : List String} {i j : Nat}

theorem mem_matching : i ∈ matching score names ↔ (entryAt? score names i).isSome = true := by
  rw [matching, List.mem_filter, List.mem_range, and_iff_right_iff_imp]
  intro h
  obtain ⟨a, ha⟩ := Option.isSome_iff_exists.mp h
  obtain ⟨name, hname, -⟩ := Option.bind_eq_some_iff.mp ha
  exact (List.getElem?_eq_some_iff.mp hname).1

/-- What has a value keeps it under the filter of those that have one. -/
theorem map_filter_isSome {α β : Type} (f : α → Option β) (l : List α) :
    (l.filter fun a => (f a).isSome).map f = (l.filterMap f).map some := by
  induction l with
  | nil => rfl
  | cons a l ih =>
    cases ha : f a with
    | none => rw [List.filter_cons_of_neg (by simp [ha]), List.filterMap_cons_none ha, ih]
    | some b =>
      rw [List.filter_cons_of_pos (by simp [ha]), List.filterMap_cons_some ha, List.map_cons,
        List.map_cons, ih, ha]

/-- **The names that match, with their points**, are those at the positions that match. -/
theorem map_matching (score : String → Option Nat) (names : List String) :
    (matching score names).map (entryAt? score names) = (scored score names).map some := by
  have hnames : (List.range names.length).map (names[·]?) = names.map some :=
    List.ext_getElem (by simp) (by simp)
  rw [matching, map_filter_isSome]
  congr 1
  show (List.range names.length).filterMap
    ((fun name? => name?.bind fun name => (score name).map fun points => (name, points)) ∘
      (names[·]?)) = _
  rw [← List.filterMap_map, hnames, List.filterMap_map]
  rfl

/-! ### The ranking -/

theorem atLeast_trans (a b c : Option (String × Nat)) (hab : atLeast a b = true)
    (hbc : atLeast b c = true) : atLeast a c = true := by
  simp only [atLeast, decide_eq_true_eq] at *
  exact Nat.le_trans hbc hab

theorem atLeast_total (a b : Option (String × Nat)) : (atLeast a b || atLeast b a) = true := by
  simp only [atLeast, Bool.or_eq_true, decide_eq_true_eq]
  exact Nat.le_total _ _

theorem mem_ranking : i ∈ ranking score names ↔ (entryAt? score names i).isSome = true := by
  rw [ranking, List.mem_mergeSort, mem_matching]

/-- **The ranking is in order.** -/
theorem pairwise_ranking (score : String → Option Nat) (names : List String) :
    (ranking score names).Pairwise (Ahead score names) := by
  have hpositions : (matching score names).Pairwise (· < ·) := List.pairwise_lt_range.filter _
  have hsorted := pairwise_mergeSort_of_pairwise
    (fun i j k => atLeast_trans (entryAt? score names i) (entryAt? score names j)
      (entryAt? score names k))
    (fun i j => atLeast_total (entryAt? score names i) (entryAt? score names j)) hpositions
  refine hsorted.imp_of_mem fun {i j} hi hj hij => ?_
  obtain ⟨a, ha⟩ := Option.isSome_iff_exists.mp (mem_ranking.mp hi)
  obtain ⟨b, hb⟩ := Option.isSome_iff_exists.mp (mem_ranking.mp hj)
  simp only [ha, hb, atLeast, Option.map_some, Option.getD_some, decide_eq_true_eq] at hij
  obtain ⟨hle, hequal⟩ := hij
  rcases Nat.lt_or_eq_of_le hle with hlt | heq
  · exact ⟨a, b, ha, hb, .inl hlt⟩
  · exact ⟨a, b, ha, hb, .inr ⟨heq.symm, hequal (Nat.le_of_eq heq.symm)⟩⟩

theorem nodup_ranking (score : String → Option Nat) (names : List String) :
    (ranking score names).Nodup :=
  (List.mergeSort_perm _ _).nodup_iff.mpr (List.nodup_range.filter _)

/-- The names with their points in the order of the ranking are what is offered without a limit. -/
theorem map_ranking (score : String → Option Nat) (names : List String) :
    (ranking score names).map (entryAt? score names) =
      ((scored score names).mergeSort fun a b => b.2 ≤ a.2).map some := by
  -- On both sides the sorting compares points, and only those.
  have hpositions : (ranking score names).map (entryAt? score names) =
      ((matching score names).map (entryAt? score names)).mergeSort atLeast :=
    List.map_mergeSort fun _ _ _ _ => rfl
  have hentries : ((scored score names).mergeSort fun a b => b.2 ≤ a.2).map some =
      ((scored score names).map some).mergeSort atLeast :=
    List.map_mergeSort fun _ _ _ _ => rfl
  rw [hpositions, hentries, map_matching]

/-- **What is offered is the beginning of the ranking.** -/
theorem map_rank (score : String → Option Nat) (names : List String) (limit : Nat) :
    (rank score names limit).map some =
      ((ranking score names).take limit).map (entryAt? score names) := by
  rw [rank, List.map_take, List.map_take, map_ranking]

theorem length_rank (score : String → Option Nat) (names : List String) (limit : Nat) :
    (rank score names limit).length =
      min limit (names.countP fun name => (score name).isSome) := by
  rw [rank, List.length_take, List.length_mergeSort, scored, List.length_filterMap_eq_countP]
  simp only [Option.isSome_map]

/-- Every name offered is among the names, and has the points it is offered with. -/
theorem mem_of_mem_rank {limit : Nat} {entry : String × Nat} (h : entry ∈ rank score names limit) :
    entry.1 ∈ names ∧ score entry.1 = some entry.2 := by
  obtain ⟨name, hname, hentry⟩ :=
    List.mem_filterMap.mp (List.mem_mergeSort.mp (List.mem_of_mem_take h))
  obtain ⟨points, hpoints, rfl⟩ := Option.map_eq_some_iff.mp hentry
  exact ⟨hname, hpoints⟩

/-- **What is offered, and what is left out.**  The positions of the names that match have an order
in which better ones come first and, among equally good ones, the earlier first; each is there once.
What is offered are the first names in it, as many as are asked for or all there are.  So all that
is left out comes after all that is offered, and who asks for more is offered the same and more. -/
theorem rank_best (score : String → Option Nat) (names : List String) :
    ∃ order : List Nat, order.Nodup ∧
      (∀ i, i ∈ order ↔ (entryAt? score names i).isSome = true) ∧
      order.Pairwise (Ahead score names) ∧
      ∀ limit,
        (rank score names limit).map some =
          (order.take limit).map (entryAt? score names) ∧
        (rank score names limit).length =
          min limit (names.countP fun name => (score name).isSome) ∧
        (∀ i ∈ order.take limit, ∀ j ∈ order.drop limit, Ahead score names i j) ∧
        ∀ more, rank score names limit <+: rank score names (limit + more) := by
  refine ⟨ranking score names, nodup_ranking score names, fun _ => mem_ranking,
    pairwise_ranking score names, fun limit => ⟨map_rank score names limit,
      length_rank score names limit, ?_, fun more => ?_⟩⟩
  · have hsplit := pairwise_ranking score names
    rw [← List.take_append_drop limit (ranking score names), List.pairwise_append] at hsplit
    exact hsplit.2.2
  · exact List.take_prefix_take_left (Nat.le_add_right limit more)

/-- Of equally good names the earlier ones are offered, one that is there twice as often. -/
example : rank (fun name => if name = "c" then none else some (if name = "b" then 2 else 1))
    ["a", "c", "b", "a", "d"] 3 = [("b", 2), ("a", 1), ("a", 1)] := by
  cbv

end CommandTree.Suggest
