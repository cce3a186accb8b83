import CommandTree.Message
import CommandTree.Span
import CommandTree.Text.Blank

/-!
# Why a command was not carried out

A failure is reported twice: to the player in messages, and to the host in one
line.

## Main definitions

* `SyntaxError`, `Hint` — where the words of a command went wrong.
* `Failure` — all failures.
* `Failure.notices` — what the player is told.
* `Failure.summary` — the line for the host.
* `failureReport` — what is known of a handler that failed, as JSON text.
-/

namespace CommandTree

/-- What could have stood at the place that went wrong. -/
inductive Hint where
  /-- Any of several arguments: the name of the first, and the keyword or type of each. -/
  | candidates (argument : String) (types : List String)
  /-- Only one argument, which explains itself. -/
  | expected (text : String)
  deriving DecidableEq, Repr

/-- Where the words of a command went wrong. -/
structure SyntaxError where
  /-- The sigil and the name of the command. -/
  command : String
  /-- The words accepted before. -/
  consumed : List String
  /-- The word that fits nowhere; none if the words ran out. -/
  token : Option String
  /-- The words after it. -/
  remaining : List String
  /-- What could have stood there. -/
  hint : Hint
  deriving DecidableEq, Repr

/-- Shown for a word that is missing. -/
def missingWord : String := "<missing>"

namespace SyntaxError

/-- The command as typed before the place that went wrong. -/
def usageSoFar (e : SyntaxError) : String := e.command ++ " " ++ joinWith " " e.consumed

/-- The word that fits nowhere, as it is shown. -/
def shownToken (e : SyntaxError) : String := e.token.getD missingWord

/-- The error in one line. -/
def summary (e : SyntaxError) : String :=
  "Syntax error: unexpected \"" ++ e.shownToken ++ "\" at >>" ++
    String.ofList (Text.trimEnd e.usageSoFar.toList) ++ "<<"

/-- The hint in words. -/
def advice (e : SyntaxError) : String :=
  match e.hint with
  | .expected text => text
  | .candidates argument types =>
    "\"" ++ e.shownToken ++ "\" is not valid! Argument \"" ++ argument ++
      "\" can be typeof: \"" ++ joinWith "\", \"" types ++ "\""

end SyntaxError

/-- Why a command was not carried out. -/
inductive Failure where
  /-- No command answers to the name; some have a similar one. -/
  | notFound (name : String) (suggestions : List String)
  /-- The player may not use the command or keyword, which may say so in words of its own. -/
  | permissionDenied (command : String) (denial : Option String)
  /-- A word is missing or fits nowhere. -/
  | malformed (e : SyntaxError)
  /-- The player used the command too recently. -/
  | onCooldown (command : String) (remaining : Span)
  /-- The words end where nothing is to be done. -/
  | incomplete (command : String)
  /-- The handler did not come to an end. -/
  | handlerFailed (command report : String)
  deriving DecidableEq, Repr

/-- What is known of a handler that failed: the command, what went wrong, and what led to it. -/
def failureReport (command message : String) (causes : List String) : Json :=
  .ofFields [("command", .ofText command), ("message", .ofText message),
    ("causes", .array (causes.map .ofText))]

namespace Failure

/-- The failure in one line. -/
def summary : Failure → String
  | .notFound name _ => "Unknown command \"" ++ name ++ "\""
  | .permissionDenied command _ => "Permission denied for \"" ++ command ++ "\""
  | .malformed e => e.summary
  | .onCooldown command remaining =>
    "\"" ++ command ++ "\" is on cooldown for another " ++ remaining.text
  | .incomplete command => "\"" ++ command ++ "\" is incomplete"
  | .handlerFailed command report => "Handler for \"" ++ command ++ "\" failed: " ++ report

/-- The offer of similar names. -/
def offer : List String → List Part
  | [] => []
  | names => [.text (" Did you mean: " ++ joinWith ", " names ++ "?")]

/-- What the player is told. -/
def notices : Failure → List Message
  | .notFound name suggestions =>
    [⟨.error, .localized "commands.generic.unknown" [name] :: offer suggestions⟩]
  | .permissionDenied command denial =>
    [.error (denial.getD ("You do not have permission to use \"" ++ command ++ "\""))]
  | .malformed e =>
    [⟨.error, [.localized "commands.generic.syntax"
        [e.usageSoFar, e.token.getD " ", joinWith " " e.remaining]]⟩,
      .error e.advice]
  | .onCooldown command remaining =>
    [.error ("Please wait " ++ remaining.roughSeconds ++ "s before using \"" ++ command ++
      "\" again")]
  | .incomplete command =>
    [.error ("Incomplete command \"" ++ command ++ "\", see help for its usage")]
  | .handlerFailed _ report =>
    [.error ("An error occurred while executing this command, " ++ report)]

end Failure

end CommandTree
