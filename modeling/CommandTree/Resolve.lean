import CommandTree.Failure
import CommandTree.Registry.Describe

/-!
# Resolving words

The words after the name of a command choose a path down the tree.  Each word
goes to the first child that accepts it, and that choice is never taken back.  The
walk ends at a node without children, or at a node with a handler when the words
are used up or fit no child.

## Main definitions

* `Registry.accepts` — whether a node takes a word.
* `Registry.firstAccepting` — the child that a word goes to.
* `Halt` — why a walk did not end well.
* `Registry.walk` — the walk itself.
* `Registry.resolve` — the walk with its failures in words.
-/

namespace CommandTree

/-- Why a walk did not end well. -/
inductive Halt where
  /-- The child that the next word goes to may not be used by the player. -/
  | denied (node : NodeId)
  /-- At this node, which has children but no handler, the words ran out or the first of `rest`
  fits no child. -/
  | stuck (node : NodeId) (rest : List String)
  deriving DecidableEq, Repr

/-- Why words cannot be resolved. -/
inductive Unresolved where
  /-- A word is missing or fits nowhere. -/
  | malformed (e : SyntaxError)
  /-- The player may not use a node. -/
  | denied (node : NodeId)

/-- The reason in one line. -/
def Unresolved.summary : Unresolved → String
  | .malformed e => e.summary
  | .denied id => "Permission denied at node " ++ describeId id

/-- The keyword of a literal argument and the type of any other. -/
def Argument.choiceWord {H : Host} (a : Argument H) : String :=
  if a.isLiteral then a.name else a.typeName

namespace Registry

variable {H : Host}

/-- Whether a node takes a word. -/
def accepts (r : Registry H) (id : NodeId) (word : String) (s : H.State) : Bool × H.State :=
  match r.node? id with
  | none => (false, s)
  | some node =>
    let (value, s) := node.argument.accept r.commandNames word s
    (value.isSome, s)

/-- The first of several nodes that takes a word; the nodes after it are not asked. -/
def firstAccepting (r : Registry H) (word : String) :
    List NodeId → H.State → Option NodeId × H.State
  | [], s => (none, s)
  | id :: ids, s =>
    match r.accepts id word s with
    | (true, s) => (some id, s)
    | (false, s) => r.firstAccepting word ids s

/-- The path that words choose below a node, without the node itself. -/
def walk (r : Registry H) (who : H.Who) :
    NodeId → List String → H.State → Except Halt (List NodeId) × H.State
  | id, [], s =>
    if (r.children id).isEmpty || r.hasHandler id then (.ok [], s) else (.error (.stuck id []), s)
  | id, word :: words, s =>
    if (r.children id).isEmpty then (.ok [], s)
    else
      match r.firstAccepting word (r.children id) s with
      | (none, s) =>
        if r.hasHandler id then (.ok [], s) else (.error (.stuck id (word :: words)), s)
      | (some child, s) =>
        if r.permits s who child then
          match r.walk who child words s with
          | (.ok path, s) => (.ok (child :: path), s)
          | (.error halt, s) => (.error halt, s)
        else (.error (.denied child), s)

/-! ### Failures in words -/

/-- The arguments of the children of a node. -/
def childArguments (r : Registry H) (id : NodeId) : List (Argument H) :=
  (r.children id).filterMap fun child => (r.node? child).map Node.argument

/-- What could have stood at a node instead of a word, or of no word. -/
def hint (r : Registry H) (id : NodeId) (token : Option String) : Hint :=
  match r.childArguments id, token with
  | [only], some word => .expected (only.reject word)
  | arguments, _ =>
    .candidates ((arguments.head?.map Argument.name).getD "") (arguments.map Argument.choiceWord)

/-- The error of a walk that began at `root` with `words` and got stuck at a node with `rest`
still to be placed. -/
def syntaxError (r : Registry H) (sigil : String) (root : NodeId) (words : List String)
    (id : NodeId) (rest : List String) : SyntaxError where
  command := sigil ++ r.nameOf root
  consumed := words.take (words.length - rest.length)
  token := rest.head?
  remaining := rest.drop 1
  hint := r.hint id rest.head?

/-- The path that words choose below the root of a command, without the root. -/
def resolve (r : Registry H) (who : H.Who) (sigil : String) (root : NodeId) (words : List String)
    (s : H.State) : Except Unresolved (List NodeId) × H.State :=
  match r.walk who root words s with
  | (.ok path, s) => (.ok path, s)
  | (.error (.denied id), s) => (.error (.denied id), s)
  | (.error (.stuck id rest), s) =>
    (.error (.malformed (r.syntaxError sigil root words id rest)), s)

end Registry

end CommandTree
