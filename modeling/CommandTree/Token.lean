import CommandTree.Text.Blank

/-!
# Words of a chat message

A message is cut into *pieces*: a quoted segment (a quote, at least one other
character, a quote) or a run of characters that are not blank.  A quote that
opens no quoted segment is an ordinary character of a run.  Each piece then
gives one word, the piece without its outermost pair of quotes.

## Main definitions

* `cut` — the first piece of a text that does not begin with a blank, and what
  follows it.
* `pieces` — all pieces of a text, in order.
* `unquote` — a piece without its outermost quotes.
* `tokenize` — the words of a message.

## Main results

* `cut_append` — a cut loses nothing.
* `cut_ne_nil` — a piece is never empty, so cutting makes progress.
-/

namespace CommandTree.Token

open Text

/-! ### Pieces -/

/-- The quoted segment that a quote followed by `cs` opens, and what follows the segment: some
character that is no quote must stand before the closing quote. -/
def quoted? (cs : List Char) : Option (List Char × List Char) :=
  match cs.takeWhile (· != '"'), cs.dropWhile (· != '"') with
  | c :: inside, q :: rest => some ('"' :: c :: inside ++ [q], rest)
  | _, _ => none

/-- The run of characters that are not blank at the front, and what follows it. -/
def run (cs : List Char) : List Char × List Char :=
  (cs.takeWhile (!isBlank ·), cs.dropWhile (!isBlank ·))

/-- The piece at the front of a text, where a quoted segment wins over a run, and what follows
the piece. -/
def cut (c : Char) (cs : List Char) : List Char × List Char :=
  if c = '"' then (quoted? cs).getD (run (c :: cs)) else run (c :: cs)

/-- A quoted segment and what follows it make up the text. -/
theorem quoted?_append {cs piece rest : List Char} (h : quoted? cs = some (piece, rest)) :
    piece ++ rest = '"' :: cs := by
  have happend := List.takeWhile_append_dropWhile (p := (· != '"')) (l := cs)
  unfold quoted? at h
  split at h
  · next c inside q tail htake hdrop =>
    simp only [Option.some.injEq, Prod.mk.injEq] at h
    rw [htake, hdrop] at happend
    rw [← happend, ← h.1, ← h.2]
    simp
  · exact absurd h (by simp)

theorem run_append (cs : List Char) : (run cs).1 ++ (run cs).2 = cs :=
  List.takeWhile_append_dropWhile

/-- A cut loses nothing: the piece and what follows it make up the text. -/
theorem cut_append (c : Char) (cs : List Char) : (cut c cs).1 ++ (cut c cs).2 = c :: cs := by
  unfold cut
  split
  · next hc =>
    cases h : quoted? cs with
    | none => exact run_append (c :: cs)
    | some cutting => rw [Option.getD_some, quoted?_append h, hc]
  · exact run_append _

/-- The piece at the front of a text that begins with no blank is not empty. -/
theorem cut_ne_nil {c : Char} (cs : List Char) (hc : isBlank c = false) : (cut c cs).1 ≠ [] := by
  have hrun : (run (c :: cs)).1 ≠ [] := by simp [run, hc]
  unfold cut
  split
  · cases h : quoted? cs with
    | none => exact hrun
    | some cutting =>
      unfold quoted? at h
      split at h
      · simp only [Option.some.injEq] at h
        simp [← h]
      · exact absurd h (by simp)
  · exact hrun

/-- What follows the first piece is shorter than the text. -/
theorem length_cut_lt {c : Char} (cs : List Char) (hc : isBlank c = false) :
    (cut c cs).2.length < (c :: cs).length := by
  have h := congrArg List.length (cut_append c cs)
  have := List.length_pos_iff.mpr (cut_ne_nil cs hc)
  rw [List.length_append] at h
  omega

/-- The pieces of a text in order; the blanks between them are skipped. -/
def pieces : List Char → List (List Char)
  | [] => []
  | c :: cs =>
    if _h : isBlank c then pieces cs
    else (cut c cs).1 :: pieces (cut c cs).2
termination_by cs => cs.length
decreasing_by
  · simp
  · exact length_cut_lt cs (by simpa using _h)

/-! ### Words -/

/-- A text cut at its last quote, which is dropped. -/
def splitAtLastQuote? : List Char → Option (List Char × List Char)
  | [] => none
  | c :: cs =>
    match splitAtLastQuote? cs with
    | some (before, after) => some (c :: before, after)
    | none => if c = '"' then some ([], cs) else none

/-- A piece without its first and its last quote, wherever they stand.  Both stay when nothing
or a line feed stands between them. -/
def unquote (piece : List Char) : List Char :=
  match splitAtLastQuote? ((piece.dropWhile (· != '"')).drop 1) with
  | none => piece
  | some (inside, after) =>
    if inside.isEmpty || inside.contains '\n' then piece
    else piece.takeWhile (· != '"') ++ inside ++ after

/-- The words of a message, in order. -/
def tokenize (text : String) : List String :=
  (pieces text.toList).map (String.ofList ∘ unquote)

end CommandTree.Token
