/-!
# Blank characters

The characters with the Unicode property White_Space separate words, are trimmed
from chat lines and may not occur in a command sigil.

## Main definitions

* `isBlank` — the property itself.
* `trimStart`, `trimEnd`, `trim` — removing blanks at the ends of a text.
* `splitAtBlank` — a text cut at its first blank.
-/

namespace CommandTree.Text

/-- A character with the Unicode property White_Space. -/
def isBlank (c : Char) : Bool :=
  let n := c.toNat
  (9 ≤ n && n ≤ 13) || n == 0x20 || n == 0x85 || n == 0xA0 || n == 0x1680 ||
    (0x2000 ≤ n && n ≤ 0x200A) || n == 0x2028 || n == 0x2029 || n == 0x202F || n == 0x205F ||
    n == 0x3000

/-- The characters without the blanks they begin with. -/
def trimStart (cs : List Char) : List Char := cs.dropWhile isBlank

/-- The characters without the blanks they end with. -/
def trimEnd (cs : List Char) : List Char := (cs.reverse.dropWhile isBlank).reverse

/-- A text without the blanks at its two ends. -/
def trim (s : String) : String := String.ofList (trimEnd (trimStart s.toList))

/-- The part before the first blank and the part after it; a text without blanks is followed by
nothing. -/
def splitAtBlank (s : String) : String × String :=
  (String.ofList (s.toList.takeWhile (!isBlank ·)),
    String.ofList ((s.toList.dropWhile (!isBlank ·)).drop 1))

end CommandTree.Text
