import CommandTree.Decimal.Layout

/-!
# Spans of time

A span is a natural number of nanoseconds.

## Main definitions

* `Span` — nanoseconds.
* `Span.text` — a span in its largest fitting unit, exactly.
* `Span.inSeconds` — a span as a number of seconds.
-/

namespace CommandTree

/-- A span of time in nanoseconds. -/
abbrev Span := Nat

namespace Span

/-- The span of that many milliseconds. -/
def ofMillis (n : Nat) : Span := n * 1000000

/-- The whole milliseconds in a span. -/
def toMillis (t : Span) : Nat := t / 1000000

/-- The number `t / 10 ^ places` with all its decimals but the trailing zeros. -/
def decimals (t places : Nat) : List Char :=
  (Decimal.Digits.strip ⟨t, -(places : Int)⟩ places).positional

/-- A span in the largest unit of which it holds at least one, with all decimals needed. -/
def text (t : Span) : String :=
  if 1000000000 ≤ t then String.ofList (decimals t 9) ++ "s"
  else if 1000000 ≤ t then String.ofList (decimals t 6) ++ "ms"
  else if 1000 ≤ t then String.ofList (decimals t 3) ++ "µs"
  else String.ofList (decimals t 0) ++ "ns"

/-- A span as a number of seconds: whole seconds and the fraction are rounded apart, then
added. -/
def inSeconds (t : Span) : Float :=
  Decimal.ofInt (t / 1000000000 : Nat) + Decimal.ofInt (t % 1000000000 : Nat) / 1e9

/-- A span in seconds with one decimal. -/
def roughSeconds (t : Span) : String := Decimal.fixed 1 (inSeconds t)

end Span

end CommandTree
