import CommandTree.Text.Classes

/-!
# How well a name fits a query

A name fits when the characters of the query occur in it in order.  Among all ways
to place them the score favours characters at the beginnings of words and characters
that follow each other, and takes points off for gaps.

A query without variants of plain letters is compared plainly: variants in the name
count as the plain letters.  Otherwise a character of the name is looked for in its
folded form, but a small letter that has another folded form earns no points.

## Main definitions

* `Column` — a character of the name, ready for comparison.
* `runScore` — the score of a query placed greedily from a given start.
* `tableScore?` — the best score over all placements.
* `score?` — the score of a name for a query, if it fits.
-/

namespace CommandTree.Suggest

open Text

/-! ### Columns -/

/-- A character of a name in the forms in which it is compared, with its class and that of the
character before it. -/
structure Column where
  /-- The form in which the query is looked for. -/
  sought : Char
  /-- The form that earns points. -/
  scored : Char
  /-- The class of the character before. -/
  before : CharClass
  /-- The class of the character. -/
  here : CharClass
  deriving Repr

/-- Whether a class belongs to words: letters and numbers. -/
def inWord : CharClass → Bool
  | .blank | .nonword | .delimiter => false
  | .lower | .upper | .letter | .number => true

/-- The bonus of a character after a word, or of one that belongs to no word. -/
def innerBonus (before here : CharClass) : Nat :=
  if (before = .lower ∧ here = .upper) ∨ (before ≠ .number ∧ here = .number) then 5
  else if here = .blank then 10
  else if here = .nonword then 8
  else 0

/-- The bonus of a character given the class of the one before it; the first letter of a word has
the greatest. -/
def placeBonus (before here : CharClass) : Nat :=
  match inWord here, before with
  | true, .blank => 10
  | true, .delimiter => 9
  | true, .nonword => 8
  | _, _ => innerBonus before here

/-- The bonus of a column. -/
def Column.bonus (column : Column) : Nat := placeBonus column.before column.here

/-- The form of a character in which the query is looked for. -/
def soughtForm (plainly : Bool) (c : Char) : Char := fold (if plainly then plain c else c)

/-- The form of a character that earns points: without the plain letters only capitals are
folded. -/
def scoredForm (plainly : Bool) (c : Char) : Char :=
  if plainly || classOf c = .upper then soughtForm plainly c else c

/-- The columns of a name whose first character stands after one of class `before`. -/
def columns (plainly : Bool) (before : CharClass) : List Char → List Column
  | [] => []
  | c :: cs =>
    ⟨soughtForm plainly c, scoredForm plainly c, before, classOf c⟩ ::
      columns plainly (classOf c) cs

/-! ### One placement -/

/-- The points for a character that is matched. -/
def matchPoints : Nat := 16

/-- The least bonus that marks the beginning of a word. -/
def boundaryBonus : Nat := 8

/-- The least bonus of a character that follows another one. -/
def consecutiveBonus : Nat := 4

/-- The query after one of its characters was matched; its last character stays. -/
def nextWanted : List Char → List Char
  | _ :: c :: cs => c :: cs
  | cs => cs

/-- A score with more points; scores are counted in 16 bits. -/
def gain (score points : Nat) : Nat := (score + points) % 65536

/-- The score of the columns after the first, given the query still wanted, the score so far, the
bonus of the run, and whether the column before was matched. -/
def runFrom : List Char → Nat → Nat → Bool → List Column → Nat
  | _, score, _, _, [] => score
  | wanted, score, first, consecutive, column :: rest =>
    if wanted.head? = some column.scored then
      let b := column.bonus
      let first' :=
        if consecutive then (if boundaryBonus ≤ b ∧ first < b then b else first) else b
      let extra := if consecutive then max (max b first') consecutiveBonus else b
      runFrom (nextWanted wanted) (gain score (matchPoints + extra)) first' true rest
    else
      let penalty := if consecutive then 3 else 1
      runFrom wanted (score - penalty) first false rest

/-- The score of a query placed greedily on columns that begin with its first character. -/
def runScore (query : List Char) : List Column → Nat
  | [] => 0
  | column :: rest =>
    runFrom (nextWanted query) (matchPoints + 2 * column.bonus) column.bonus true rest

/-! ### The best placement -/

/-- The best way to end a placement at a column: its score and the bonus of its run; none if no
placement ends there. -/
abbrev Cell := Option (Nat × Nat)

/-- The score of a cell. -/
def cellScore (cell : Cell) : Nat := (cell.map Prod.fst).getD 0

/-- The cell of a matched column after the cell of the column before it, given the best score of
a placement that ends earlier. -/
def extend (earlier bonus : Nat) : Cell → Nat × Nat
  | none => (earlier + bonus + matchPoints, bonus)
  | some (score, runBonus) =>
    let kept := max runBonus consecutiveBonus
    let run := if boundaryBonus ≤ bonus ∧ kept < bonus then bonus else kept
    let joined := score + max run bonus
    let apart := earlier + bonus
    if apart < joined then (joined + matchPoints, run) else (apart + matchPoints, bonus)

/-- The row of the query character `c` from the row of the character before it, without the first
column.  `skip` columns lie before the first place of that character; `gapScore` and `lastScore`
are the best scores that end two or more columns and one column before. -/
def nextRow (c : Char) : Nat → Nat → Nat → List Cell → List Column → List Cell
  | skip + 1, _, _, _ :: row, _ :: window => none :: nextRow c skip 0 0 row window
  | 0, gapScore, lastScore, cell :: row, column :: window =>
    let earlier := max (lastScore - 3) (gapScore - 1)
    let new : Cell := if column.scored = c then some (extend earlier column.bonus cell) else none
    new :: nextRow c 0 earlier (cellScore cell) row window
  | _, _, _, _, _ => []

/-- The rows of the characters after the first: each with the number of columns before the first
place of the character before it. -/
def lastRow (window : List Column) : List Cell → List (Char × Nat) → List Cell
  | row, [] => row
  | row, (c, skip) :: rest => lastRow window (none :: nextRow c skip 0 0 row (window.drop 1)) rest

/-- The first places at which the characters of a query occur in order; `i` is the place of the
first character of the text. -/
def firstPlaces? : List Char → Nat → List Char → Option (List Nat)
  | [], _, _ => some []
  | _ :: _, _, [] => none
  | c :: cs, i, d :: rest =>
    if d = c then (firstPlaces? cs (i + 1) rest).map (i :: ·)
    else firstPlaces? (c :: cs) (i + 1) rest

/-- The best score over all placements of a query in a window, if there is any. -/
def tableScore? (query : List Char) (window : List Column) : Option Nat :=
  match query, firstPlaces? query 0 (window.map Column.scored) with
  | first :: rest, some places =>
    let row : List Cell := window.map fun column =>
      if column.scored = first then some (matchPoints + 2 * column.bonus, column.bonus) else none
    some (((lastRow window row (rest.zip places)).map cellScore).foldl max 0)
  | _, _ => none

/-! ### Room for a table -/

/-- A size rounded up to a multiple of a unit. -/
def alignUp (unit size : Nat) : Nat := (size + unit - 1) / unit * unit

/-- The room a table takes for a window of `width` characters of `charSize` bytes and a query of
`height`: a character and a bonus for each column, two bytes for each row, and for each place
of the first row eight bytes and one for each row. -/
def tableRoom (charSize width height : Nat) : Nat :=
  let places := width + 1 - height
  alignUp 8 (alignUp 2 (charSize * width + width) + 2 * height) + 8 * places + places * height

/-- Whether a table is small enough to be filled in. -/
def hasRoom (charSize width height : Nat) : Bool :=
  width * height ≤ 102400 && width < 65536 && tableRoom charSize width height ≤ 133120

/-! ### The score of a name -/

/-- How many of the characters of a text are passed to find those of a list in order. -/
def passed : List Char → List Column → Nat
  | c :: cs, column :: rest =>
    if column.sought = c then passed cs rest + 1 else passed (c :: cs) rest + 1
  | _, _ => 0

/-- The score of the shortest placement that ends where the first one does, for a query whose
first character begins the window. -/
def greedyScore? (query : List Char) (window : List Column) : Option Nat := do
  let last ← (← firstPlaces? query 0 (window.map Column.sought)).getLast?
  let head := window.take (last + 1)
  return runScore query (head.drop (head.length - passed query.reverse head.reverse))

/-- The score of a query in a window of its own length. -/
def wholeScore? (query : List Char) (window : List Column) : Option Nat :=
  if window.map Column.sought = query then some (runScore query window) else none

/-- The part of a name from the first place where the query can begin to the last where it can
end. -/
def window? (query : List Char) (name : List Column) : Option (List Column) := do
  let first ← query.head?
  let final ← query.getLast?
  let starts := name.take (name.length + 1 - query.length)
  let tail := name.drop (← starts.findIdx? (·.sought == first))
  let after := (tail.reverse.takeWhile (·.sought != final)).length
  let window := tail.take (tail.length - after)
  if window.length < query.length then none else some window

/-- The score of a query of at least two characters in a longer name. -/
def longScore? (charSize : Nat) (query : List Char) (name : List Column) : Option Nat := do
  let window ← window? query name
  if window.length = query.length then wholeScore? query window
  else if hasRoom charSize window.length query.length then tableScore? query window
  else greedyScore? query window

/-- The best points of a column at which a single character occurs, where each bonus counts from
the occurrence before. -/
def linkedScore (c : Char) : CharClass → List Column → Nat
  | _, [] => 0
  | before, column :: rest =>
    if column.scored = c then
      max (matchPoints + 2 * placeBonus before column.here) (linkedScore c column.here rest)
    else linkedScore c before rest

/-- The score of a single character in a longer name.  In a name with characters outside ASCII
only the bonus of the first occurrence counts from the character before it. -/
def singleScore? (ascii : Bool) (c : Char) (name : List Column) : Option Nat :=
  match name.dropWhile (·.sought != c) with
  | [] => none
  | column :: rest =>
    if ascii then
      some ((((column :: rest).filter (·.scored == c)).map fun column =>
        matchPoints + 2 * column.bonus).foldl max 0)
    else some (linkedScore c column.before (column :: rest))

/-- The score of a folded query in a name with the given columns. -/
def columnsScore? (ascii : Bool) (query : List Char) (name : List Column) : Option Nat :=
  if name.length < query.length then none
  else if query.isEmpty then some 0
  else if name.length = query.length then wholeScore? query name
  else
    match query with
    | [c] => singleScore? ascii c name
    | query => longScore? (if ascii then 1 else 4) query name

/-- Whether a text holds ASCII characters only. -/
def isAscii (cs : List Char) : Bool := cs.all fun c => c.toNat < 128

/-- The score of a name for a query, if it fits.  Case does not matter; variants of plain letters
matter only when the query has some.  A query with characters outside ASCII fits no name
without. -/
def score? (query name : String) : Option Nat :=
  let folded := query.toList.map fold
  let asciiQuery := isAscii query.toList
  let asciiName := isAscii name.toList
  let plainly := asciiQuery || folded.all fun c => (plainLetter? c).isNone
  if asciiName && !asciiQuery then none
  else columnsScore? asciiName folded (columns plainly .blank name.toList)

end CommandTree.Suggest
