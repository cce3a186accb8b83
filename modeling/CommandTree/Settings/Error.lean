import CommandTree.Text.Blank
import CommandTree.Text.Quoted

/-!
# Unusable settings

## Main definitions

* `SettingsError` — why settings cannot be used.
* `sigilError?` — what is wrong with a sigil.
-/

namespace CommandTree

/-- Why settings cannot be used. -/
inductive SettingsError where
  /-- The file exists but holds no text. -/
  | unreadable (file : String)
  /-- The text of the file is not a settings document. -/
  | unparsable (file : String)
  /-- The sigil has no characters. -/
  | emptySigil
  /-- The sigil has a blank. -/
  | blankSigil (sigil : String)
  deriving DecidableEq, Repr

/-- The wording of a settings error. -/
def SettingsError.message (e : SettingsError) : String :=
  "Configuration error: " ++
    match e with
    | .unreadable file => "Failed to read config file " ++ file
    | .unparsable file => "Failed to parse config file " ++ file
    | .emptySigil => "Command prefix must not be empty"
    | .blankSigil sigil => "Command prefix " ++ Text.quote sigil ++ " must not contain whitespace"

/-- What is wrong with a sigil: it must have characters, none of them blank. -/
def sigilError? (sigil : String) : Option SettingsError :=
  if sigil.isEmpty then some .emptySigil
  else if sigil.toList.any Text.isBlank then some (.blankSigil sigil)
  else none

end CommandTree
