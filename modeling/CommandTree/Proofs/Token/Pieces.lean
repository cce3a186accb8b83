import CommandTree.Proofs.Blank
import CommandTree.Token
import Mathlib.Data.List.Forall2

/-!
# What is cut out of a message

However quotes and blanks are strewn over a message, cutting it loses nothing.  The
message is blanks, a piece, blanks, and so on, where each piece is a quoted segment or
a run that ends at a blank or at the end of the message, and the word made of a piece
is the piece itself or the piece without two of its quotes.  What can be said of words
in general follows from that alone: none is empty, and no character is lost but quotes
and the blanks around the pieces.

## Main definitions

* `IsQuoted`, `IsRun` — the two sorts of pieces.
* `Splits` — a text is made of pieces with blanks around them.
* `Unquotes` — the words that can be made of a piece.

## Main results

* `splits_pieces`, `unquotes_unquote` — what cutting and unquoting do.
* `filter_tokenize` — only blanks and quotes can be lost.
* `tokenize_eq_nil_iff` — a message without words is blank.
* `tokenize_trim` — blanks at the two ends of a message make no difference.
-/

namespace CommandTree.Token

open Text

/-! ### Cutting one piece -/

/-- At least one character that is no quote, between two quotes. -/
def IsQuoted (piece : List Char) : Prop :=
  ∃ inside, inside ≠ [] ∧ '"' ∉ inside ∧ piece = '"' :: (inside ++ ['"'])

/-- At least one character, and none of them blank. -/
def IsRun (piece : List Char) : Prop := piece ≠ [] ∧ ∀ c ∈ piece, isBlank c = false

/-- The text is empty or begins with a blank. -/
def EndsRun (rest : List Char) : Prop := ∀ c ∈ rest.head?, isBlank c = true

theorem isBlank_quote : isBlank '"' = false := by decide

variable {c : Char} {cs piece rest inside : List Char}

/-- A quote opens a quoted segment just if another quote follows, though not at once. -/
theorem quoted?_eq_some_iff : quoted? cs = some (piece, rest) ↔
    ∃ inside, inside ≠ [] ∧ '"' ∉ inside ∧ piece = '"' :: (inside ++ ['"']) ∧
      cs = inside ++ '"' :: rest := by
  have hsplit := List.takeWhile_append_dropWhile (p := (· != '"')) (l := cs)
  constructor
  · intro h
    unfold quoted? at h
    split at h
    · next c inside q tail htake hdrop =>
      obtain ⟨rfl, rfl⟩ := Prod.mk.inj (Option.some.inj h)
      have hq : q = '"' := by
        have hstop := List.head?_dropWhile_not (· != '"') cs
        rw [hdrop] at hstop
        simpa using hstop
      have hnone : '"' ∉ c :: inside := by
        intro hmem
        rw [← htake] at hmem
        simpa using List.mem_takeWhile_imp hmem
      rw [htake, hdrop, hq] at hsplit
      exact ⟨c :: inside, List.cons_ne_nil _ _, hnone, by rw [hq]; rfl, hsplit.symm⟩
    · cases h
  · rintro ⟨inside, hne, hnone, rfl, rfl⟩
    have hall : ∀ c ∈ inside, (c != '"') = true := by
      intro c hc
      exact bne_iff_ne.mpr fun h => hnone (h ▸ hc)
    have htake : (inside ++ '"' :: rest).takeWhile (· != '"') = inside := by
      rw [List.takeWhile_append_of_pos hall]
      simp
    have hdrop : (inside ++ '"' :: rest).dropWhile (· != '"') = '"' :: rest := by
      rw [List.dropWhile_append_of_pos hall]
      simp
    obtain ⟨first, more, rfl⟩ := List.exists_cons_of_ne_nil hne
    rw [quoted?, htake, hdrop]
    rfl

/-- A run goes as far as it can. -/
theorem run_eq (hrun : ∀ c ∈ piece, isBlank c = false) (hend : EndsRun rest) :
    run (piece ++ rest) = (piece, rest) := by
  have hall : ∀ c ∈ piece, (!isBlank c) = true := fun c hc => by simp [hrun c hc]
  have htake : rest.takeWhile (!isBlank ·) = [] := by
    cases rest with
    | nil => rfl
    | cons b rest => simp [hend b rfl]
  have hdrop : rest.dropWhile (!isBlank ·) = rest := by
    cases rest with
    | nil => rfl
    | cons b rest => simp [hend b rfl]
  simp only [run, List.takeWhile_append_of_pos hall, List.dropWhile_append_of_pos hall, htake,
    hdrop, List.append_nil]

theorem isRun_run (cs : List Char) (hc : isBlank c = false) :
    IsRun (run (c :: cs)).1 ∧ EndsRun (run (c :: cs)).2 := by
  refine ⟨⟨by simp [run, hc], fun b hb => ?_⟩, fun b hb => ?_⟩
  · simpa using List.mem_takeWhile_imp hb
  · have hstop := List.head?_dropWhile_not (!isBlank ·) (c :: cs)
    change (List.dropWhile (!isBlank ·) (c :: cs)).head? = some b at hb
    rw [hb] at hstop
    simpa using hstop

/-- **The piece cut from a text** that begins with no blank is a quoted segment, or else a run that
goes as far as it can. -/
theorem cut_cases (hc : isBlank c = false) :
    IsQuoted (cut c cs).1 ∨ IsRun (cut c cs).1 ∧ EndsRun (cut c cs).2 := by
  unfold cut
  split
  · cases h : quoted? cs with
    | none => exact .inr (isRun_run cs hc)
    | some found =>
      obtain ⟨inside, hne, hnone, hpiece, -⟩ := quoted?_eq_some_iff.mp h
      exact .inl ⟨inside, hne, hnone, hpiece⟩
  · exact .inr (isRun_run cs hc)

/-! ### Cutting a whole text -/

@[simp] theorem pieces_nil : pieces [] = [] := by
  rw [pieces]

theorem pieces_of_blank (hc : isBlank c = true) : pieces (c :: cs) = pieces cs := by
  rw [pieces, dif_pos hc]

theorem pieces_of_not_blank (hc : isBlank c = false) :
    pieces (c :: cs) = (cut c cs).1 :: pieces (cut c cs).2 := by
  rw [pieces, dif_neg (by simp [hc])]

/-- Blanks before a text make no difference. -/
theorem pieces_append_of_blank {gap : List Char} (hgap : ∀ c ∈ gap, isBlank c = true) :
    pieces (gap ++ cs) = pieces cs := by
  induction gap with
  | nil => rfl
  | cons c gap ih =>
    obtain ⟨hc, hgap⟩ := List.forall_mem_cons.mp hgap
    rw [List.cons_append, pieces_of_blank hc, ih hgap]

/-- The text is made of the pieces in order, with blanks before, between and after them, none of
which needs to be there but to end a run. -/
inductive Splits : List Char → List (List Char) → Prop
  /-- Nothing but blanks. -/
  | blanks {gap : List Char} (hgap : ∀ c ∈ gap, isBlank c = true) : Splits gap []
  /-- Blanks, a piece, and the rest. -/
  | piece {gap piece rest : List Char} {pieces : List (List Char)}
    (hgap : ∀ c ∈ gap, isBlank c = true) (hpiece : IsQuoted piece ∨ IsRun piece ∧ EndsRun rest)
    (hrest : Splits rest pieces) : Splits (gap ++ (piece ++ rest)) (piece :: pieces)

theorem Splits.blank_cons {pieces : List (List Char)} (hc : isBlank c = true)
    (h : Splits cs pieces) : Splits (c :: cs) pieces := by
  cases h with
  | blanks hgap => exact .blanks (List.forall_mem_cons.mpr ⟨hc, hgap⟩)
  | piece hgap hpiece hrest =>
    exact .piece (List.forall_mem_cons.mpr ⟨hc, hgap⟩) hpiece hrest

/-- **Cutting loses nothing**: every text is made of its pieces. -/
theorem splits_pieces (cs : List Char) : Splits cs (pieces cs) := by
  induction cs using pieces.induct with
  | case1 => exact pieces_nil ▸ .blanks (by simp)
  | case2 c cs hc ih =>
    rw [pieces_of_blank hc]
    exact ih.blank_cons hc
  | case3 c cs hc ih =>
    have hc : isBlank c = false := by simpa using hc
    rw [pieces_of_not_blank hc]
    have hsplits : Splits ([] ++ ((cut c cs).1 ++ (cut c cs).2)) ((cut c cs).1 :: _) :=
      .piece (by simp) (cut_cases hc) ih
    rwa [List.nil_append, cut_append] at hsplits

/-! ### Blanks after a text -/

section Trimming

variable {gap : List Char} (hgap : ∀ c ∈ gap, isBlank c = true)

include hgap

theorem EndsRun.append (h : EndsRun rest) : EndsRun (rest ++ gap) := by
  intro c hc
  cases rest with
  | nil => exact hgap c (List.mem_of_head? hc)
  | cons b rest => exact h c hc

theorem quoted?_append_of_blank :
    quoted? (cs ++ gap) = (quoted? cs).map fun found => (found.1, found.2 ++ gap) := by
  cases h : quoted? cs with
  | some found =>
    obtain ⟨inside, hne, hnone, hpiece, rfl⟩ := quoted?_eq_some_iff.mp h
    refine quoted?_eq_some_iff.mpr ⟨inside, hne, hnone, hpiece, ?_⟩
    rw [List.append_assoc, List.cons_append]
  | none =>
    cases hlong : quoted? (cs ++ gap) with
    | none => rfl
    | some found =>
      obtain ⟨inside, hne, hnone, -, heq⟩ := quoted?_eq_some_iff.mp hlong
      -- The closing quote is no blank, so it stands in the text itself.
      have hquote : '"' ∈ cs := by
        have hmem : '"' ∈ cs ++ gap := heq ▸ by simp
        rcases List.mem_append.mp hmem with hmem | hmem
        · exact hmem
        · have hblank := hgap _ hmem
          rw [isBlank_quote] at hblank
          cases hblank
      obtain ⟨before, after, rfl, hbefore⟩ := List.eq_append_cons_of_mem hquote
      have hsame : before = inside := by
        have htake := congrArg (List.takeWhile (· != '"')) heq
        have hfirst : ∀ l : List Char, '"' ∉ l → ∀ c ∈ l, (c != '"') = true :=
          fun l hl c hc => bne_iff_ne.mpr fun hq => hl (hq ▸ hc)
        rw [List.append_assoc, List.takeWhile_append_of_pos (hfirst before hbefore),
          List.takeWhile_append_of_pos (hfirst inside hnone)] at htake
        simpa using htake
      have hshort : quoted? (before ++ '"' :: after) = some ('"' :: (before ++ ['"']), after) :=
        quoted?_eq_some_iff.mpr ⟨before, hsame ▸ hne, hbefore, rfl, rfl⟩
      rw [h] at hshort
      cases hshort

theorem run_append_of_blank (hc : isBlank c = false) :
    run (c :: (cs ++ gap)) = ((run (c :: cs)).1, (run (c :: cs)).2 ++ gap) := by
  obtain ⟨hrun, hend⟩ := isRun_run cs hc
  have heq := run_eq hrun.2 (EndsRun.append hgap hend)
  rwa [← List.append_assoc, run_append, List.cons_append] at heq

theorem cut_append_of_blank (hc : isBlank c = false) :
    cut c (cs ++ gap) = ((cut c cs).1, (cut c cs).2 ++ gap) := by
  unfold cut
  split
  · rw [quoted?_append_of_blank hgap, run_append_of_blank hgap hc]
    cases quoted? cs <;> rfl
  · exact run_append_of_blank hgap hc

/-- Blanks after a text make no difference. -/
theorem pieces_append_blank (cs : List Char) : pieces (cs ++ gap) = pieces cs := by
  induction cs using pieces.induct with
  | case1 =>
    have h : pieces (gap ++ []) = pieces [] := pieces_append_of_blank hgap
    rwa [List.append_nil] at h
  | case2 c cs hc ih => rw [List.cons_append, pieces_of_blank hc, pieces_of_blank hc, ih]
  | case3 c cs hc ih =>
    have hc : isBlank c = false := by simpa using hc
    rw [List.cons_append, pieces_of_not_blank hc, pieces_of_not_blank hc,
      cut_append_of_blank hgap hc, ih]

end Trimming

/-- **Blanks at the two ends of a message make no difference** to its words. -/
theorem tokenize_trim (text : String) : tokenize (trim text) = tokenize text := by
  obtain ⟨⟨lead, trail, htext, hlead, htrail⟩, -, -⟩ := padded_trim text
  rw [tokenize, tokenize, htext, pieces_append_blank htrail, pieces_append_of_blank hlead]

/-! ### Words -/

/-- The words that can be made of a piece: the piece as it is, or without two quotes that are apart
from each other. -/
inductive Unquotes : List Char → List Char → Prop
  /-- Nothing is dropped. -/
  | whole (piece : List Char) : Unquotes piece piece
  /-- Two quotes are dropped. -/
  | dropped {inside : List Char} (before after : List Char) (hne : inside ≠ []) :
    Unquotes (before ++ '"' :: (inside ++ '"' :: after)) (before ++ (inside ++ after))

theorem eq_of_splitAtLastQuote? {before after : List Char}
    (h : splitAtLastQuote? cs = some (before, after)) : cs = before ++ '"' :: after := by
  induction cs generalizing before with
  | nil => cases h
  | cons c cs ih =>
    rw [splitAtLastQuote?] at h
    cases hlast : splitAtLastQuote? cs with
    | some found =>
      obtain ⟨first, last⟩ := found
      rw [hlast] at h
      obtain ⟨rfl, rfl⟩ := Prod.mk.inj (Option.some.inj h)
      rw [ih hlast, List.cons_append]
    | none =>
      rw [hlast] at h
      by_cases hc : c = '"'
      · simp only [hc, if_true, Option.some.injEq, Prod.mk.injEq] at h
        rw [← h.1, ← h.2, hc, List.nil_append]
      · simp [hc] at h

/-- A text is cut at a quote that no other quote follows. -/
theorem splitAtLastQuote?_append {before after : List Char} (hafter : '"' ∉ after) :
    splitAtLastQuote? (before ++ '"' :: after) = some (before, after) := by
  induction before with
  | nil =>
    have hnone : splitAtLastQuote? after = none := by
      cases h : splitAtLastQuote? after with
      | none => rfl
      | some found =>
        rw [eq_of_splitAtLastQuote? h] at hafter
        simp at hafter
    simp [splitAtLastQuote?, hnone]
  | cons c before ih => rw [List.cons_append, splitAtLastQuote?, ih]

/-- **A piece loses two quotes or nothing** when it is made a word. -/
theorem unquotes_unquote (piece : List Char) : Unquotes piece (unquote piece) := by
  have hsplit := List.takeWhile_append_dropWhile (p := (· != '"')) (l := piece)
  unfold unquote
  cases hdrop : piece.dropWhile (· != '"') with
  | nil => exact .whole piece
  | cons q rest =>
    have hq : q = '"' := by
      have hstop := List.head?_dropWhile_not (· != '"') piece
      rw [hdrop] at hstop
      simpa using hstop
    simp only [List.drop_succ_cons, List.drop_zero]
    cases hlast : splitAtLastQuote? rest with
    | none => exact .whole piece
    | some found =>
      obtain ⟨inside, after⟩ := found
      simp only
      split
      · exact .whole piece
      · next hinside =>
        have hne : inside ≠ [] := by
          rintro rfl
          simp at hinside
        rw [hdrop, hq, eq_of_splitAtLastQuote? hlast] at hsplit
        have hdropped := Unquotes.dropped (piece.takeWhile (· != '"')) after hne
        rwa [hsplit, ← List.append_assoc] at hdropped

/-- A piece without quotes is its own word. -/
theorem unquote_of_not_mem (h : '"' ∉ piece) : unquote piece = piece := by
  have hdrop : piece.dropWhile (· != '"') = [] := by
    rw [List.dropWhile_eq_nil_iff]
    intro c hc
    exact bne_iff_ne.mpr fun hq => h (hq ▸ hc)
  simp [unquote, hdrop, splitAtLastQuote?]

/-- The word of a quoted segment is what stands between the quotes, if that is one line. -/
theorem unquote_quoted (hne : inside ≠ []) (hline : '\n' ∉ inside) :
    unquote ('"' :: (inside ++ ['"'])) = inside := by
  have hlast : splitAtLastQuote? (inside ++ ['"']) = some (inside, []) :=
    splitAtLastQuote?_append (by simp)
  simp [unquote, hlast, hne, hline]

theorem Unquotes.ne_nil {word : List Char} (h : Unquotes piece word) (hpiece : piece ≠ []) :
    word ≠ [] := by
  cases h with
  | whole => exact hpiece
  | dropped before after hne => simp [hne]

/-- A character that is neither a blank nor a quote. -/
def isPlain (c : Char) : Bool := c != '"' && !isBlank c

/-- Only quotes can be lost when a piece is made a word. -/
theorem Unquotes.filter_eq {word : List Char} (h : Unquotes piece word) :
    word.filter isPlain = piece.filter isPlain := by
  have hquote : isPlain '"' = false := by decide
  cases h with
  | whole => rfl
  | dropped before after hne => simp [hquote]

theorem Unquotes.subset {word : List Char} (h : Unquotes piece word) : word ⊆ piece := by
  intro c hc
  cases h with
  | whole => exact hc
  | dropped before after hne =>
    simp only [List.mem_append, List.mem_cons] at hc ⊢
    rcases hc with hc | hc | hc
    · exact .inl hc
    · exact .inr (.inr (.inl hc))
    · exact .inr (.inr (.inr (.inr hc)))

/-! ### What can be said of all words -/

theorem IsQuoted.ne_nil (h : IsQuoted piece) : piece ≠ [] := by
  obtain ⟨inside, -, -, rfl⟩ := h
  exact List.cons_ne_nil _ _

theorem Splits.ne_nil {pieces : List (List Char)} (h : Splits cs pieces) :
    ∀ piece ∈ pieces, piece ≠ [] := by
  induction h with
  | blanks => intro piece hpiece; cases hpiece
  | piece _ hsort _ ih =>
    intro other hother
    rcases List.mem_cons.mp hother with rfl | hother
    · rcases hsort with hquoted | ⟨hrun, -⟩
      · exact hquoted.ne_nil
      · exact hrun.1
    · exact ih other hother

/-- A piece with a blank in it is a quoted segment. -/
theorem Splits.isQuoted {pieces : List (List Char)} (h : Splits cs pieces) :
    ∀ piece ∈ pieces, (∃ c ∈ piece, isBlank c = true) → IsQuoted piece := by
  induction h with
  | blanks => intro piece hpiece; cases hpiece
  | piece _ hsort _ ih =>
    intro other hother hblank
    rcases List.mem_cons.mp hother with rfl | hother
    · rcases hsort with hquoted | ⟨hrun, -⟩
      · exact hquoted
      · -- There is no blank in a run.
        obtain ⟨c, hc, hblank⟩ := hblank
        rw [hrun.2 c hc] at hblank
        cases hblank
    · exact ih other hother hblank

/-- A text has no pieces just if it is blank. -/
theorem Splits.eq_nil_iff {pieces : List (List Char)} (h : Splits cs pieces) :
    pieces = [] ↔ ∀ c ∈ cs, isBlank c = true := by
  cases h with
  | blanks hgap => simpa using hgap
  | @piece gap piece rest pieces _ hsort _ =>
    refine iff_of_false (List.cons_ne_nil _ _) fun hall => ?_
    rcases hsort with ⟨inside, -, -, rfl⟩ | ⟨⟨hne, hrun⟩, -⟩
    · have hq := hall '"' (by simp)
      rw [isBlank_quote] at hq
      cases hq
    · obtain ⟨c, piece, rfl⟩ := List.exists_cons_of_ne_nil hne
      have hc := hall c (by simp)
      rw [hrun c List.mem_cons_self] at hc
      cases hc

/-- Only blanks can be lost between pieces. -/
theorem Splits.filter_flatten {pieces : List (List Char)} (h : Splits cs pieces) :
    pieces.flatten.filter isPlain = cs.filter isPlain := by
  have hnone : ∀ gap : List Char, (∀ c ∈ gap, isBlank c = true) → gap.filter isPlain = [] := by
    intro gap hgap
    rw [List.filter_eq_nil_iff]
    intro c hc
    simp [isPlain, hgap c hc]
  induction h with
  | blanks hgap => rw [hnone _ hgap, List.flatten_nil, List.filter_nil]
  | piece hgap _ _ ih =>
    rw [List.flatten_cons, List.filter_append, List.filter_append, List.filter_append, ih,
      hnone _ hgap, List.nil_append]

theorem tokenize_eq (text : String) :
    tokenize text = (pieces text.toList).map fun piece => String.ofList (unquote piece) := rfl

/-- **A message has no words just if it is blank.** -/
theorem tokenize_eq_nil_iff {text : String} :
    tokenize text = [] ↔ ∀ c ∈ text.toList, isBlank c = true := by
  rw [tokenize_eq, List.map_eq_nil_iff]
  exact (splits_pieces text.toList).eq_nil_iff

/-- No character of a message is lost but blanks and quotes. -/
theorem filter_tokenize (text : String) :
    ((tokenize text).flatMap String.toList).filter isPlain = text.toList.filter isPlain := by
  have hwords : ∀ pieces : List (List Char),
      ((pieces.map fun piece => String.ofList (unquote piece)).flatMap
        String.toList).filter isPlain = pieces.flatten.filter isPlain := by
    intro pieces
    induction pieces with
    | nil => rfl
    | cons piece pieces ih =>
      rw [List.map_cons, List.flatMap_cons, List.filter_append, ih, String.toList_ofList,
        (unquotes_unquote piece).filter_eq, List.flatten_cons, List.filter_append]
  rw [tokenize_eq, hwords, (splits_pieces text.toList).filter_flatten]

end CommandTree.Token
