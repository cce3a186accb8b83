import CommandTree.Text.Blank
import Mathlib.Data.List.TakeWhile

/-!
# Blanks around a text

Blanks are taken away at both ends of a text, at the end as at the beginning.  What is left
can be said without doing so: the text is this with blanks before and after it, and it
neither begins nor ends with one.

## Main definitions

* `Padded` — a text with blanks around it.

## Main results

* `padded_iff` — the core of a text is what is left of it without the blanks.
-/

namespace CommandTree.Text

/-- There are blanks before and after the core, maybe none, and no blank at either end of it. -/
structure Padded (text core : List Char) : Prop where
  around : ∃ lead trail, text = lead ++ core ++ trail ∧ (∀ c ∈ lead, isBlank c = true) ∧
    ∀ c ∈ trail, isBlank c = true
  first : ∀ c ∈ core.head?, isBlank c = false
  last : ∀ c ∈ core.getLast?, isBlank c = false

variable {text core cs gap : List Char}

theorem head?_trimStart (cs : List Char) : ∀ c ∈ (trimStart cs).head?, isBlank c = false := by
  intro c hc
  have hstop := List.head?_dropWhile_not isBlank cs
  rwa [← trimStart, Option.mem_def.mp hc] at hstop

theorem trimStart_eq_self (h : ∀ c ∈ cs.head?, isBlank c = false) : trimStart cs = cs := by
  cases cs with
  | nil => rfl
  | cons c cs => rw [trimStart, List.dropWhile_cons_of_neg (by simp [h c rfl])]

/-- Blanks are taken away at the end as at the beginning. -/
theorem trimEnd_eq (cs : List Char) : trimEnd cs = (trimStart cs.reverse).reverse := rfl

theorem trimEnd_eq_self (h : ∀ c ∈ cs.getLast?, isBlank c = false) : trimEnd cs = cs := by
  rw [trimEnd_eq, trimStart_eq_self (by rwa [List.head?_reverse]), List.reverse_reverse]

theorem trimEnd_append (h : ∀ c ∈ gap, isBlank c = true) : trimEnd (cs ++ gap) = trimEnd cs := by
  rw [trimEnd_eq, List.reverse_append, trimStart,
    List.dropWhile_append_of_pos fun c hc => h c (List.mem_reverse.mp hc)]
  rfl

/-- Nothing but blanks is taken away at the end. -/
theorem exists_trimEnd (cs : List Char) :
    ∃ trail, cs = trimEnd cs ++ trail ∧ ∀ c ∈ trail, isBlank c = true := by
  refine ⟨(cs.reverse.takeWhile isBlank).reverse, ?_, fun c hc => ?_⟩
  · rw [trimEnd, ← List.reverse_append, List.takeWhile_append_dropWhile, List.reverse_reverse]
  · exact List.mem_takeWhile_imp (List.mem_reverse.mp hc)

/-- **A text with blanks around it** is what is left when they are taken away. -/
theorem padded_iff : Padded text core ↔ trimEnd (trimStart text) = core := by
  constructor
  · rintro ⟨⟨lead, trail, rfl, hlead, htrail⟩, hfirst, hlast⟩
    rw [trimStart, List.append_assoc, List.dropWhile_append_of_pos hlead, ← trimStart]
    cases core with
    | nil =>
      have hnone : trimStart trail = [] := List.dropWhile_eq_nil_iff.mpr htrail
      rw [List.nil_append, hnone]
      rfl
    | cons c core =>
      have hkept : trimStart (c :: core ++ trail) = c :: core ++ trail := trimStart_eq_self hfirst
      rw [hkept, trimEnd_append htrail, trimEnd_eq_self hlast]
  · rintro rfl
    have hfront : text.takeWhile isBlank ++ trimStart text = text :=
      List.takeWhile_append_dropWhile
    obtain ⟨trail, hback, htrail⟩ := exists_trimEnd (trimStart text)
    refine ⟨⟨text.takeWhile isBlank, trail, ?_, fun c hc => List.mem_takeWhile_imp hc, htrail⟩,
      fun c hc => ?_, fun c hc => ?_⟩
    · rw [List.append_assoc, ← hback, hfront]
    · refine head?_trimStart text c ?_
      rw [hback, List.head?_append, Option.mem_def.mp hc]
      rfl
    · rw [trimEnd_eq, List.getLast?_reverse] at hc
      exact head?_trimStart _ c hc

theorem toList_trim (s : String) : (trim s).toList = trimEnd (trimStart s.toList) :=
  String.toList_ofList

theorem padded_trim (s : String) : Padded s.toList (trim s).toList := by
  rw [padded_iff, toList_trim]

end CommandTree.Text
