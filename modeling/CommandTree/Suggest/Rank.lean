import CommandTree.Registry.Basic

/-!
# Similar names

Names that resemble a mistyped one are offered best first; equally good ones stay in
the order in which they are known.

## Main definitions

* `rank` — the best of several names with their scores.
* `Registry.similarNames` — the names of commands to offer instead of an unknown
  one.
-/

namespace CommandTree

namespace Suggest

/-- The names that have a score, with it. -/
def scored (score : String → Option Nat) (names : List String) : List (String × Nat) :=
  names.filterMap fun name => (score name).map fun points => (name, points)

/-- The best `limit` of several names with their scores, best first; equals keep their order. -/
def rank (score : String → Option Nat) (names : List String) (limit : Nat) : List (String × Nat) :=
  ((scored score names).mergeSort fun a b => b.2 ≤ a.2).take limit

/-- The number of names offered instead of an unknown one. -/
def maxOffers : Nat := 3

end Suggest

/-- The names of the commands a player may use that resemble a name best, by the given score. -/
def Registry.similarNames {H : Host} (r : Registry H) (score : String → String → Option Nat)
    (s : H.State) (who : H.Who) (name : String) : List String :=
  (Suggest.rank (score name) ((r.roots.filter (r.permits s who)).map r.nameOf)
    Suggest.maxOffers).map Prod.fst

end CommandTree
