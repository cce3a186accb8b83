import CommandTree.Proofs.Token.Pieces
import Mathlib.Data.List.Chain

/-!
# Writing words down

Words that are not empty and have no quote and no line feed in them can be written so
that the message is cut into just these words: each between quotes, or as it stands if
there is no blank in it, with blanks around them.  Only a word that stands as it is needs
a blank after it, so as not to run into the next one; a closing quote is enough of an end.

## Main definitions

* `Chunk` — a word as it stands, or between quotes.
* `Layout` — words with blanks before, between and after them.

## Main results

* `pieces_written`, `unquote_written` — each word is a piece of its own, and is read off it.
* `Layout.tokenize_text` — the words of a message are those that were laid out.
-/

namespace CommandTree.Token

open Text

/-- A word written down. -/
inductive Chunk where
  /-- As it stands, without blanks and quotes in it. -/
  | bare (word : String) (hne : word ≠ "")
    (hplain : ∀ c ∈ word.toList, isBlank c = false ∧ c ≠ '"')
  /-- Between quotes, without quotes and line feeds in it. -/
  | quoted (word : String) (hne : word ≠ "") (hplain : ∀ c ∈ word.toList, c ≠ '"' ∧ c ≠ '\n')

namespace Chunk

/-- The word itself. -/
def word : Chunk → String
  | bare word _ _ => word
  | quoted word _ _ => word

/-- Whether the word stands as it is. -/
def isBare : Chunk → Bool
  | bare _ _ _ => true
  | quoted _ _ _ => false

/-- The word with the quotes around it, if there are any. -/
def written : Chunk → List Char
  | bare word _ _ => word.toList
  | quoted word _ _ => '"' :: (word.toList ++ ['"'])

end Chunk

/-- A word written down, with the blanks after it. -/
structure Item where
  chunk : Chunk
  /-- The blanks, maybe none. -/
  gap : List Char
  gap_blank : ∀ c ∈ gap, isBlank c = true

/-- Words written down one after the other. -/
structure Layout where
  /-- The blanks before the first word, maybe none. -/
  lead : List Char
  lead_blank : ∀ c ∈ lead, isBlank c = true
  items : List Item
  /-- A blank follows each word that stands as it is, but the last. -/
  apart : items.IsChain fun item _ => item.chunk.isBare = true → item.gap ≠ []

/-- The characters of words written down one after the other. -/
def writtenItems (items : List Item) : List Char :=
  items.flatMap fun item => item.chunk.written ++ item.gap

/-- The text of a layout. -/
def Layout.text (l : Layout) : String := String.ofList (l.lead ++ writtenItems l.items)

/-- The words of a layout. -/
def Layout.words (l : Layout) : List String := l.items.map fun item => item.chunk.word

variable {rest : List Char}

/-- **Each word is a piece of its own**, if a blank or nothing follows it in case it stands as it
is. -/
theorem pieces_written (chunk : Chunk) (hend : chunk.isBare = true → EndsRun rest) :
    pieces (chunk.written ++ rest) = chunk.written :: pieces rest := by
  cases chunk with
  | bare word hne hplain =>
    have hword : word.toList ≠ [] := fun h => hne (String.toList_eq_nil_iff.mp h)
    obtain ⟨c, cs, hcs⟩ := List.exists_cons_of_ne_nil hword
    rw [hcs] at hplain
    obtain ⟨hblank, hquote⟩ := hplain c List.mem_cons_self
    have hrun : run (c :: cs ++ rest) = (c :: cs, rest) :=
      run_eq (fun b hb => (hplain b hb).1) (hend rfl)
    have hcut : cut c (cs ++ rest) = (c :: cs, rest) := by
      rw [cut, if_neg hquote]
      exact hrun
    rw [Chunk.written, hcs, List.cons_append, pieces_of_not_blank hblank, hcut]
  | quoted word hne hplain =>
    have hsegment : quoted? (word.toList ++ '"' :: rest) =
        some ('"' :: (word.toList ++ ['"']), rest) := by
      refine quoted?_eq_some_iff.mpr ⟨word.toList, ?_, ?_, rfl, rfl⟩
      · exact fun h => hne (String.toList_eq_nil_iff.mp h)
      · exact fun h => (hplain '"' h).1 rfl
    have hcut : cut '"' (word.toList ++ '"' :: rest) = ('"' :: (word.toList ++ ['"']), rest) := by
      rw [cut, if_pos rfl, hsegment, Option.getD_some]
    rw [Chunk.written, List.cons_append, List.append_assoc, List.singleton_append,
      pieces_of_not_blank isBlank_quote, hcut]

/-- **The word is read off its piece.** -/
theorem unquote_written (chunk : Chunk) : unquote chunk.written = chunk.word.toList := by
  cases chunk with
  | bare word hne hplain => exact unquote_of_not_mem fun h => (hplain '"' h).2 rfl
  | quoted word hne hplain =>
    have hword : word.toList ≠ [] := fun h => hne (String.toList_eq_nil_iff.mp h)
    exact unquote_quoted hword fun h => (hplain '\n' h).2 rfl

/-- The words written down are the pieces, one by one. -/
theorem pieces_writtenItems {items : List Item}
    (hapart : items.IsChain fun item _ => item.chunk.isBare = true → item.gap ≠ []) :
    pieces (writtenItems items) = items.map fun item => item.chunk.written := by
  induction items with
  | nil => exact pieces_nil
  | cons item items ih =>
    rw [List.isChain_cons] at hapart
    obtain ⟨hnext, hapart⟩ := hapart
    have hend : item.chunk.isBare = true → EndsRun (item.gap ++ writtenItems items) := by
      intro hbare c hc
      cases hgap : item.gap with
      | cons b gap =>
        rw [hgap] at hc
        obtain rfl : b = c := Option.some.inj hc
        exact item.gap_blank b (hgap ▸ List.mem_cons_self)
      | nil =>
        -- Without a blank after it this is the last word.
        cases items with
        | nil => rw [hgap] at hc; cases hc
        | cons next items => exact absurd hgap (hnext next rfl hbare)
    have hrest : pieces (item.gap ++ writtenItems items) = pieces (writtenItems items) :=
      pieces_append_of_blank item.gap_blank
    calc pieces (writtenItems (item :: items))
        = pieces (item.chunk.written ++ (item.gap ++ writtenItems items)) := by
          rw [writtenItems, List.flatMap_cons, List.append_assoc, ← writtenItems]
      _ = item.chunk.written :: pieces (writtenItems items) := by
          rw [pieces_written item.chunk hend, hrest]
      _ = (item :: items).map fun item => item.chunk.written := by rw [ih hapart, List.map_cons]

/-- **The words of a message are those that were laid out in it.** -/
theorem Layout.tokenize_text (l : Layout) : tokenize l.text = l.words := by
  have hpieces : pieces l.text.toList = l.items.map fun item => item.chunk.written := by
    rw [Layout.text, String.toList_ofList, pieces_append_of_blank l.lead_blank,
      pieces_writtenItems l.apart]
  rw [tokenize_eq, hpieces, List.map_map, Layout.words]
  refine List.map_congr_left fun item _ => ?_
  rw [Function.comp_apply, unquote_written, String.ofList_toList]

/-- Quotes end a word as well as blanks do. -/
example : tokenize "say \"two  words\"\"again\"now " = ["say", "two  words", "again", "now"] := by
  decide +kernel

end CommandTree.Token
