import CommandTree.Registry.Build

/-!
# The help text

Usage lines are read off the tree: one line for each node with a handler, as far as
the reader may use the nodes on the way to it.  The listing shows the commands a
reader may see, five to a page.

## Main definitions

* `Registry.visibleRoots` — the commands a reader may see.
* `HelpPage`, `Registry.helpPage?` — a page of the listing.
* `Registry.usageLines` — the usage lines of a command.
* `Registry.listing`, `Registry.explanation` — what the help command answers.
-/

namespace CommandTree

/-! ### Pages -/

/-- The number of commands on a page. -/
def helpPageSize : Nat := 5

/-- A page of the listing. -/
structure HelpPage where
  /-- The number of the page shown, counted from one. -/
  number : Nat
  /-- The number of the last page. -/
  last : Nat
  /-- The commands on the page. -/
  commands : List NodeId
  deriving DecidableEq, Repr

/-- The head of a page. -/
def HelpPage.header (p : HelpPage) (sigil : String) : String :=
  "--- Showing help page " ++ toString p.number ++ " of " ++ toString p.last ++ " (" ++ sigil ++
    "help <page: int>) ---"

/-- The number of pages for a number of commands. -/
def pageCount (n : Nat) : Nat := (n + helpPageSize - 1) / helpPageSize

namespace Registry

variable {H : Host}

/-- Whether a reader may see a command: they may use it, and are an operator if it is hidden from
others. -/
def isVisible (r : Registry H) (s : H.State) (who : H.Who) (id : NodeId) : Bool :=
  (r.node? id).any fun node =>
    node.data.permits s who && (!node.data.opOnly || H.isOp s who)

/-- The commands a reader may see, in order of declaration. -/
def visibleRoots (r : Registry H) (s : H.State) (who : H.Who) : List NodeId :=
  r.roots.filter (r.isVisible s who)

/-- The page with the requested number, or the nearest one there is; none if the reader may see no
command. -/
def helpPage? (r : Registry H) (s : H.State) (who : H.Who) (requested : Int) : Option HelpPage :=
  let visible := r.visibleRoots s who
  if visible.isEmpty then none
  else
    let last := pageCount visible.length
    let number := min (max requested 1).toNat last
    some ⟨number, last, (visible.drop ((number - 1) * helpPageSize)).take helpPageSize⟩

/-! ### Usage lines -/

/-- A node in a usage line: a keyword by its name, another argument with its type. -/
def usageWord (node : Node H) : String :=
  if node.argument.isLiteral then node.argument.name else node.argument.describe

/-- The words of a usage line with those of one more node; the root and trailing arguments add
none. -/
def withUsageWord (words : List String) (node : Node H) : List String :=
  if node.depth == 0 || node.argument.isTrailing then words else words ++ [usageWord node]

/-- The usage lines of a node and the nodes below it, each as the words after the name of the
command; `words` are those of the nodes above. -/
def usageBelow (r : Registry H) (s : H.State) (who : H.Who) (words : List String) (id : NodeId) :
    List (List String) :=
  match r.node? id with
  | none => []
  | some node =>
    if node.data.permits s who then
      let words := withUsageWord words node
      (if node.handler.isSome then [words] else []) ++
        node.children.flatMap fun child =>
          if _h : id < child ∧ child < r.size then usageBelow r s who words child else []
    else []
termination_by r.size - id
decreasing_by exact Nat.sub_lt_sub_left (Nat.lt_trans _h.1 _h.2) _h.1

/-- The usage lines of a command for a reader. -/
def usageLines (r : Registry H) (s : H.State) (who : H.Who) (sigil : String) (root : NodeId) :
    List String :=
  (r.usageBelow s who [] root).map fun words => joinWith " " ((sigil ++ r.nameOf root) :: words)

/-! ### Answers -/

/-- The answer to a request for a page of the listing. -/
def listing (r : Registry H) (s : H.State) (who : H.Who) (sigil : String) (requested : Int) :
    List Message :=
  match r.helpPage? s who requested with
  | none => [.error "There are no commands available to you"]
  | some page =>
    .styled .header (page.header sigil) ::
      (page.commands.flatMap (r.usageLines s who sigil)).map .text

/-- The name of a command with its aliases. -/
def title (d : CommandData H) : String :=
  if d.aliases.isEmpty then d.name
  else d.name ++ " (also " ++ joinWith ", " d.aliases ++ ")"

/-- The answer to a request for one command. -/
def explanation (r : Registry H) (s : H.State) (who : H.Who) (sigil name : String) :
    List Message :=
  match (r.visibleRoots s who).find? fun id => r.nameOf id == name with
  | none => [.error "Command not found!"]
  | some id =>
    match r.node? id with
    | none => []
    | some node =>
      .styled .highlight (title node.data) ::
        ((if node.data.description.isEmpty then [] else [node.data.description]) ++
          "Usage:" :: r.usageLines s who sigil id).map .text

end Registry

end CommandTree
