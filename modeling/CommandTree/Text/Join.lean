/-!
# Joining texts

## Main definitions

* `joinWith` — texts with a separator between them.
* `applied` — a name with arguments in parentheses.
-/

namespace CommandTree

/-- Texts with a separator between them. -/
def joinWith (separator : String) : List String → String
  | [] => ""
  | [text] => text
  | text :: texts => text ++ separator ++ joinWith separator texts

/-- A name with arguments in parentheses. -/
def applied (name : String) (arguments : List String) : String :=
  name ++ "(" ++ joinWith ", " arguments ++ ")"

end CommandTree
