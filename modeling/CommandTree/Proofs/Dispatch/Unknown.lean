import CommandTree.Launch
import CommandTree.Proofs.Registry.Owners
import CommandTree.Proofs.Suggest.Rank

/-!
# Names that no command has

A player who mistypes the name of a command is offered similar ones.  The offers are
chosen among the names of the commands that the player may use, and commands that are
closed to the player are left out before anything is compared or counted.  So they
show neither by being offered nor by taking the place of another, and the whole reply
depends on the open names alone.

## Main definitions

* `Registry.openNames` — the names of the commands that a player may use.

## Main results

* `mem_similarNames`, `length_similarNames_le` — what is offered.
* `dispatch_of_unknown` — what becomes of a message whose first word no command answers to.
* `dispatch_unknown` — **the reply is the same** wherever the open names are the same.
-/

namespace CommandTree

variable {H : Host}

/-! ### Offers -/

namespace Registry

variable {r : Registry H} {score : String → String → Option Nat} {m : H.State} {who : H.Who}
  {name offer : String}

/-- The names, not the aliases, of the commands that a player may use, in order of declaration. -/
def openNames (r : Registry H) (m : H.State) (who : H.Who) : List String :=
  (r.roots.filter (r.permits m who)).map r.nameOf

theorem mem_openNames :
    offer ∈ r.openNames m who ↔
      ∃ root ∈ r.roots, r.permits m who root = true ∧ r.nameOf root = offer := by
  simp only [openNames, List.mem_map, List.mem_filter, and_assoc]

/-- Names are offered by what the player may use, and nothing else. -/
theorem similarNames_congr {r' : Registry H} {m' : H.State}
    (h : r'.openNames m' who = r.openNames m who) :
    r'.similarNames score m' who name = r.similarNames score m who name :=
  congrArg (fun names => (Suggest.rank (score name) names Suggest.maxOffers).map Prod.fst) h

theorem mem_similarNames (h : offer ∈ r.similarNames score m who name) :
    offer ∈ r.openNames m who := by
  obtain ⟨entry, hentry, rfl⟩ := List.mem_map.mp h
  exact (Suggest.mem_of_mem_rank hentry).1

theorem length_similarNames_le (r : Registry H) (score : String → String → Option Nat)
    (m : H.State) (who : H.Who) (name : String) :
    (r.similarNames score m who name).length ≤ Suggest.maxOffers := by
  rw [similarNames, List.length_map, Suggest.length_rank]
  exact Nat.min_le_left _ _

end Registry

/-! ### Replies -/

/-- The reply to a name that no command has. -/
def unknownReply (name : String) (offers : List String) : Message :=
  ⟨.error, .localized "commands.generic.unknown" [name] :: Failure.offer offers⟩

namespace Dispatcher

variable {d d' : Dispatcher H} {who : H.Who} {text text' name : String} {args args' : List String}
  {s s' : Session H}

/-- **A message whose first word no command answers to** gets one reply, and nothing else
happens. -/
theorem dispatch_of_unknown (hwords : d.words? text = some (name, args))
    (hnone : ∀ root, ¬d.registry.Answers root name) :
    d.dispatch who text s =
      let offers := d.registry.similarNames d.score s.host who name
      ⟨.failed (.notFound name offers), none,
        { s with host := H.deliver who (unknownReply name offers) s.host }⟩ := by
  have hfind := Registry.findRoot?_eq_none_iff_answers.mpr hnone
  simp only [dispatch, hwords, attempt, select, hfind]
  rfl

/-- **The reply to an unknown name tells nothing of commands that are closed to the player.**  In
two registries no command answers to the name, and the commands open to the player have the same
names in the same order; whatever else there is, the name is refused in the same way and gets the
same reply, which is all that happens.  It offers at most three names, all of commands that are
open. -/
theorem dispatch_unknown (hscore : d'.score = d.score)
    (hwords : d.words? text = some (name, args)) (hwords' : d'.words? text' = some (name, args'))
    (hnone : ∀ root, ¬d.registry.Answers root name)
    (hnone' : ∀ root, ¬d'.registry.Answers root name)
    (hopen : d'.registry.openNames s'.host who = d.registry.openNames s.host who) :
    let offers := d.registry.similarNames d.score s.host who name
    let reply := unknownReply name offers
    d.dispatch who text s =
      ⟨.failed (.notFound name offers), none, { s with host := H.deliver who reply s.host }⟩ ∧
    d'.dispatch who text' s' =
      ⟨.failed (.notFound name offers), none, { s' with host := H.deliver who reply s'.host }⟩ ∧
    offers.length ≤ 3 ∧
    ∀ offer ∈ offers, ∃ root ∈ d.registry.roots,
      d.registry.permits s.host who root = true ∧ d.registry.nameOf root = offer := by
  intro offers reply
  -- Both draw their offers from the same names, the open ones.
  have hoffers : d'.registry.similarNames d'.score s'.host who name = offers := by
    rw [hscore]
    exact Registry.similarNames_congr hopen
  refine ⟨dispatch_of_unknown hwords hnone, ?_, Registry.length_similarNames_le ..,
    fun offer h => ?_⟩
  · show d'.dispatch who text' s' = _
    rw [dispatch_of_unknown hwords' hnone', hoffers]
  · exact Registry.mem_openNames.mp (Registry.mem_similarNames h)

/-- The command `stop`, for operators, with an alias. -/
def haltData : CommandData World.host :=
  ⟨"stop", "", ["stay"], some World.host.isOp, none, false, none⟩

/-- Names are alike if the letters of one stand in the other in the same order. -/
def likeness (name other : String) : Option Nat :=
  if name.toList.isSublist other.toList then some 1 else none

/-- Ann mistypes `step`.  The command `stop`, which stands before it in one registry, is as similar
to the name that she types, and she is not told of it. -/
theorem dispatch_unknown_stp :
    let s := Session.start (H := World.host) (World.empty.join "Ann" false)
    let stepData : CommandData World.host := .plain "step" ""
    let d : Dispatcher World.host := ⟨.ofSteps [.command stepData], "-", noActions, likeness⟩
    let d' : Dispatcher World.host :=
      ⟨.ofSteps [.command haltData, .command stepData], "-", noActions, likeness⟩
    likeness "stp" "stop" = likeness "stp" "step" ∧
    (d.dispatch "Ann" "-stp" s).outcome = .failed (.notFound "stp" ["step"]) ∧
    (d'.dispatch "Ann" "-stp now" s).outcome = .failed (.notFound "stp" ["step"]) := by
  intro s stepData d d'
  have hwords : d.words? "-stp" = some ("stp", []) := by decide +kernel
  have hwords' : d'.words? "-stp now" = some ("stp", ["now"]) := by decide +kernel
  have hnone : ∀ root, ¬d.registry.Answers root "stp" :=
    Registry.findRoot?_eq_none_iff_answers.mp (by decide +kernel)
  have hnone' : ∀ root, ¬d'.registry.Answers root "stp" :=
    Registry.findRoot?_eq_none_iff_answers.mp (by decide +kernel)
  have hopen : d.registry.openNames s.host "Ann" = ["step"] := by decide +kernel
  have hopen' : d'.registry.openNames s.host "Ann" = d.registry.openNames s.host "Ann" := by
    decide +kernel
  have hscored : Suggest.scored (d.score "stp") ["step"] = [("step", 1)] := by decide +kernel
  have hoffers : d.registry.similarNames d.score s.host "Ann" "stp" = ["step"] := by
    rw [Registry.similarNames, ← Registry.openNames, hopen, Suggest.rank, hscored,
      List.mergeSort_singleton]
    rfl
  have hscore : d'.score = d.score := rfl
  obtain ⟨hdispatch, hdispatch', -⟩ :=
    dispatch_unknown (s := s) hscore hwords hwords' hnone hnone' hopen'
  refine ⟨by decide +kernel, ?_, ?_⟩
  · rw [hdispatch, hoffers]
  · rw [hdispatch', hoffers]

end Dispatcher

end CommandTree
