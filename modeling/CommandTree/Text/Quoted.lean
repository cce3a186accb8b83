import CommandTree.Text.Unprintable

/-!
# Quoted text

A text shown in a diagnostic or a description stands between double quotes.
Quotes, backslashes and the four common controls are written with a backslash,
other characters that leave no mark of their own by their code point in
hexadecimal.

## Main definitions

* `quoteChar` — how one character is written.
* `quote` — a text in quotes.
-/

namespace CommandTree.Text

/-- How a character is written between quotes. -/
def quoteChar (c : Char) : List Char :=
  match c with
  | '\t' => ['\\', 't']
  | '\n' => ['\\', 'n']
  | '\r' => ['\\', 'r']
  | '\x00' => ['\\', '0']
  | '"' => ['\\', '"']
  | '\\' => ['\\', '\\']
  | c =>
    if isUnprintable c then '\\' :: 'u' :: '\x7b' :: Nat.toDigits 16 c.toNat ++ ['\x7d']
    else [c]

/-- A text between double quotes. -/
def quote (s : String) : String :=
  String.ofList ('"' :: s.toList.flatMap quoteChar ++ ['"'])

end CommandTree.Text
