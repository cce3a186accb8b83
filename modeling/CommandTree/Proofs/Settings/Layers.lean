import Mathlib.Data.List.Forall2
import CommandTree.Launch

/-!
# Layers of settings

Each setting is the one of the highest layer that sets it.  Whether the sigil can be used
is asked twice: before the options of the program are laid over the files and the
environment, and again after.  So the shell begins only if both sigils can be used, the one
in force and the one that would be in force without the options.

## Main definitions

* `FileContent.Holds` — the layer that stands in a file, if the file can be read at all.
* `highest` — a setting in the highest of several layers that sets it.
* `UsableSigil` — a sigil that commands can begin with.

## Main results

* `foldl_merge` — what several layers give together.
* `Options.settings_eq_ok_iff` — when a run has settings, and which.
* `prepare_begins_iff` — **when the shell of a run begins**.
* `prepare_early_check` — a sigil that is overridden can keep the shell from beginning.
-/

namespace CommandTree

/-! ### What a file holds -/

/-- The layer that stands in a file.  A file that is not there sets nothing. -/
inductive FileContent.Holds : FileContent → Overlay → Prop
  /-- No file. -/
  | absent : Holds .absent .empty
  /-- A file with a settings document. -/
  | text {s : String} {overlay : Overlay}
      (parsed : (Json.parse? s).bind Overlay.ofJson? = some overlay) : Holds (.text s) overlay

/-- A file holds one layer at most. -/
theorem FileContent.Holds.unique {content : FileContent} {a b : Overlay} (ha : content.Holds a)
    (hb : content.Holds b) : a = b := by
  cases ha with
  | absent =>
    cases hb
    rfl
  | text parsed =>
    cases hb with
    | text parsed' => exact Option.some.inj (parsed.symm.trans parsed')

theorem Overlay.ofFile_eq_ok_iff {name : String} {content : FileContent} {overlay : Overlay} :
    Overlay.ofFile name content = .ok overlay ↔ content.Holds overlay := by
  constructor
  · intro h
    cases content with
    | absent =>
      cases h
      exact .absent
    | unreadable => cases h
    | text s =>
      rw [Overlay.ofFile] at h
      split at h
      · next found hparsed =>
        cases h
        exact .text hparsed
      · cases h
  · rintro (_ | hparsed)
    · rfl
    · rw [Overlay.ofFile, hparsed]

theorem mapM_ofFile_eq_ok_iff (files : List (String × FileContent)) {overlays : List Overlay} :
    (files.mapM fun file => Overlay.ofFile file.1 file.2) = .ok overlays ↔
      List.Forall₂ (fun file overlay => file.2.Holds overlay) files overlays := by
  induction files generalizing overlays with
  | nil =>
    rw [List.mapM_nil, List.forall₂_nil_left_iff]
    exact ⟨fun h => (by cases h; rfl), fun h => h ▸ rfl⟩
  | cons file files ih =>
    rw [List.mapM_cons, List.forall₂_cons_left_iff]
    constructor
    · intro h
      cases hfile : Overlay.ofFile file.1 file.2 with
      | error e =>
        rw [hfile] at h
        cases h
      | ok first =>
        cases hrest : files.mapM fun file => Overlay.ofFile file.1 file.2 with
        | error e =>
          rw [hfile, hrest] at h
          cases h
        | ok others =>
          rw [hfile, hrest] at h
          cases h
          exact ⟨first, others, Overlay.ofFile_eq_ok_iff.mp hfile, ih.mp hrest, rfl⟩
    · rintro ⟨first, others, hfirst, hothers, rfl⟩
      rw [Overlay.ofFile_eq_ok_iff.mpr hfirst, ih.mpr hothers]
      rfl

/-! ### The highest layer wins -/

/-- A setting in the highest of several layers that sets it, or else its default. -/
def highest {α : Type} (pick : Overlay → Option α) (layers : List Overlay) (base : α) : α :=
  (layers.filterMap pick).getLast?.getD base

theorem highest_nil {α : Type} (pick : Overlay → Option α) (base : α) :
    highest pick [] base = base := rfl

theorem highest_cons {α : Type} (pick : Overlay → Option α) (layer : Overlay)
    (layers : List Overlay) (base : α) :
    highest pick (layer :: layers) base = highest pick layers ((pick layer).getD base) := by
  unfold highest
  cases h : pick layer with
  | none => rw [List.filterMap_cons_none h, Option.getD_none]
  | some value =>
    rw [List.filterMap_cons_some h, List.getLast?_cons, Option.getD_some, Option.getD_some]

/-- A layer that sets nothing higher up does not matter, and one that does hides all below it. -/
theorem highest_append_singleton {α : Type} (pick : Overlay → Option α) (layers : List Overlay)
    (top : Overlay) (base : α) :
    highest pick (layers ++ [top]) base = (pick top).getD (highest pick layers base) := by
  induction layers generalizing base with
  | nil => rw [List.nil_append, highest_cons, highest_nil, highest_nil]
  | cons layer layers ih => rw [List.cons_append, highest_cons, highest_cons, ih]

/-- The settings that several layers give together, from the lowest to the highest. -/
def Settings.ofLayers (layers : List Overlay) : Settings :=
  ⟨highest Overlay.sigil layers Settings.default.sigil,
    highest Overlay.level layers Settings.default.level,
    highest Overlay.jsonLogs layers Settings.default.jsonLogs⟩

theorem foldl_merge (layers : List Overlay) (s : Settings) :
    layers.foldl Settings.merge s =
      ⟨highest Overlay.sigil layers s.sigil, highest Overlay.level layers s.level,
        highest Overlay.jsonLogs layers s.jsonLogs⟩ := by
  induction layers generalizing s with
  | nil => rfl
  | cons layer layers ih =>
    rw [List.foldl_cons, ih, highest_cons, highest_cons, highest_cons]
    rfl

theorem Settings.merge_ofLayers (layers : List Overlay) (top : Overlay) :
    (Settings.ofLayers layers).merge top = Settings.ofLayers (layers ++ [top]) := by
  simp only [Settings.ofLayers, Settings.merge, highest_append_singleton]

/-! ### Sigils that can be used -/

/-- A sigil that commands can begin with: it has characters, none of them blank. -/
def UsableSigil (sigil : String) : Prop :=
  sigil ≠ "" ∧ ∀ c ∈ sigil.toList, Text.isBlank c = false

instance (sigil : String) : Decidable (UsableSigil sigil) :=
  decidable_of_iff (sigil ≠ "" ∧ sigil.toList.all (!Text.isBlank ·) = true) (by simp [UsableSigil])

theorem sigilError?_eq_none_iff {sigil : String} :
    sigilError? sigil = none ↔ UsableSigil sigil := by
  unfold sigilError? UsableSigil
  by_cases hempty : sigil = ""
  · simp [hempty]
  · by_cases hblank : sigil.toList.any Text.isBlank = true
    · obtain ⟨c, hc, hcblank⟩ := List.any_eq_true.mp hblank
      simp only [String.isEmpty_iff, hempty, if_false, hblank, if_true, reduceCtorEq, false_iff]
      rintro ⟨-, hnone⟩
      rw [hnone c hc] at hcblank
      exact Bool.false_ne_true hcblank
    · have hnone : ∀ c ∈ sigil.toList, Text.isBlank c = false := fun c hc =>
        Bool.eq_false_iff.mpr fun hcblank => hblank (List.any_eq_true.mpr ⟨c, hc, hcblank⟩)
      simpa [hempty, hblank] using hnone

theorem Settings.checked_eq_ok_iff {s t : Settings} :
    s.checked = .ok t ↔ UsableSigil s.sigil ∧ s = t := by
  rw [Settings.checked, Settings.error?, ← sigilError?_eq_none_iff]
  cases sigilError? s.sigil <;> simp

/-! ### The settings of a run -/

/-- **Loading files and the environment**: every file must hold a layer, and the sigil of the
highest layer that sets one must be usable. -/
theorem Settings.load_eq_ok_iff {files : List (String × FileContent)}
    {environment : String → Option String} {settings : Settings} :
    Settings.load files environment = .ok settings ↔
      ∃ overlays, List.Forall₂ (fun file overlay => file.2.Holds overlay) files overlays ∧
        settings = .ofLayers (overlays ++ [.ofEnvironment environment]) ∧
        UsableSigil settings.sigil := by
  have hmerged (overlays : List Overlay) :
      (overlays.foldl Settings.merge .default).merge (.ofEnvironment environment) =
        .ofLayers (overlays ++ [.ofEnvironment environment]) := by
    rw [foldl_merge, ← Settings.merge_ofLayers]
    rfl
  unfold Settings.load
  simp_rw [← mapM_ofFile_eq_ok_iff]
  cases hfiles : files.mapM fun file => Overlay.ofFile file.1 file.2 with
  | error e =>
    constructor
    · intro h
      cases h
    · rintro ⟨_, h, -⟩
      cases h
  | ok overlays =>
    show ((overlays.foldl Settings.merge .default).merge _).checked = _ ↔ _
    rw [hmerged, Settings.checked_eq_ok_iff]
    constructor
    · rintro ⟨husable, rfl⟩
      exact ⟨overlays, rfl, rfl, husable⟩
    · rintro ⟨others, hothers, rfl, husable⟩
      cases hothers
      exact ⟨husable, rfl⟩

/-- The layers of a run below its options, given what its two files hold. -/
def Surroundings.layers (around : Surroundings) (global project : Overlay) : List Overlay :=
  [global, project, .ofEnvironment around.environment]

/-- The settings of a run are those of all its layers.  The sigil is asked for before the options
are known, and again with them. -/
theorem Options.settings_eq_ok_iff {o : Options} {around : Surroundings} {settings : Settings} :
    o.settings around = .ok settings ↔
      ∃ global project, around.globalFile.2.Holds global ∧
        (around.projectFile (o.projectDirectory around)).2.Holds project ∧
        UsableSigil (Settings.ofLayers (around.layers global project)).sigil ∧
        settings = .ofLayers (around.layers global project ++ [o.overlay]) ∧
        UsableSigil settings.sigil := by
  unfold Options.settings
  constructor
  · intro h
    cases hload : Settings.load [around.globalFile,
        around.projectFile (o.projectDirectory around)] around.environment with
    | error e =>
      simp only [hload] at h
      cases h
    | ok loaded =>
      simp only [hload] at h
      obtain ⟨husable, rfl⟩ := Settings.checked_eq_ok_iff.mp h
      obtain ⟨overlays, hfiles, rfl, hloaded⟩ := Settings.load_eq_ok_iff.mp hload
      obtain ⟨global, rest, hglobal, hrest, rfl⟩ := List.forall₂_cons_left_iff.mp hfiles
      obtain ⟨project, rest, hproject, hnil, rfl⟩ := List.forall₂_cons_left_iff.mp hrest
      obtain rfl := List.forall₂_nil_left_iff.mp hnil
      refine ⟨global, project, hglobal, hproject, hloaded, ?_, husable⟩
      exact Settings.merge_ofLayers (around.layers global project) o.overlay
  · rintro ⟨global, project, hglobal, hproject, hloaded, rfl, husable⟩
    have hload : Settings.load [around.globalFile,
        around.projectFile (o.projectDirectory around)] around.environment =
        .ok (.ofLayers (around.layers global project)) :=
      Settings.load_eq_ok_iff.mpr
        ⟨[global, project], .cons hglobal (.cons hproject .nil), rfl, hloaded⟩
    simp only [hload]
    show ((Settings.ofLayers (around.layers global project)).merge o.overlay).checked = _
    rw [Settings.merge_ofLayers]
    exact Settings.checked_eq_ok_iff.mpr ⟨husable, rfl⟩

theorem builtinCommands_clash? : (builtinCommands World.host).clash? = none := by
  decide +kernel

/-- With a usable sigil nothing else is in the way of the built-in commands. -/
theorem Options.openShell_of_usable (o : Options) {settings : Settings}
    (husable : UsableSigil settings.sigil) :
    o.openShell settings = .ok ⟨⟨builtinCommands World.host, settings.sigil, noActions,
      Suggest.score?⟩, o.player, .start o.world⟩ := by
  have hsigil : settings.sigil.isEmpty = false :=
    Bool.eq_false_iff.mpr fun h => husable.1 (String.isEmpty_iff.mp h)
  rw [Options.openShell, Dispatcher.create, hsigil, builtinCommands_clash?]
  rfl

section Preparing

variable {arguments : List String} {around : Surroundings} {o : Options}
  (hread : Request.ofArguments arguments = .ok (.run o))
  (hdirectory : emptyProject o around = false)

include hread hdirectory

/-- A run whose arguments can be read begins just if it has settings and its shell opens. -/
theorem prepare_eq_ok_iff {shell : Shell World.host} :
    prepare arguments around = .ok (.inr shell) ↔
      ∃ settings, o.settings around = .ok settings ∧ o.openShell settings = .ok shell := by
  rw [prepare, hread]
  simp only [hdirectory, Bool.false_eq_true, if_false]
  cases o.settings around with
  | error e =>
    constructor
    · intro h
      cases h
    · rintro ⟨_, h, -⟩
      cases h
  | ok settings =>
    cases hopen : o.openShell settings with
    | error e => simp [hopen]
    | ok opened => simp [hopen]

/-- **When the shell of a run begins**: every settings file that is there can be read, the sigil in
force is usable, and so is the one that would be in force without the options.  The settings are
then, one by one, those of the highest layer that sets them. -/
theorem prepare_begins_iff (shell : Shell World.host) :
    (prepare arguments around = .ok (.inr shell) ↔
      ∃ global project, around.globalFile.2.Holds global ∧
        (around.projectFile (o.projectDirectory around)).2.Holds project ∧
        UsableSigil (highest Overlay.sigil (around.layers global project) "-") ∧
        UsableSigil (highest Overlay.sigil (around.layers global project ++ [o.overlay]) "-") ∧
        shell = ⟨⟨builtinCommands World.host,
          highest Overlay.sigil (around.layers global project ++ [o.overlay]) "-", noActions,
          Suggest.score?⟩, o.player, .start o.world⟩) ∧
    ∀ global project, around.globalFile.2.Holds global →
      (around.projectFile (o.projectDirectory around)).2.Holds project →
      prepare arguments around = .ok (.inr shell) →
      o.settings around = .ok (.ofLayers (around.layers global project ++ [o.overlay])) := by
  rw [prepare_eq_ok_iff hread hdirectory]
  refine ⟨⟨?_, ?_⟩, ?_⟩
  · rintro ⟨settings, hsettings, hopen⟩
    obtain ⟨global, project, hglobal, hproject, hloaded, rfl, husable⟩ :=
      Options.settings_eq_ok_iff.mp hsettings
    rw [o.openShell_of_usable husable] at hopen
    exact ⟨global, project, hglobal, hproject, hloaded, husable, (Except.ok.inj hopen).symm⟩
  · rintro ⟨global, project, hglobal, hproject, hloaded, husable, rfl⟩
    exact ⟨_, Options.settings_eq_ok_iff.mpr
      ⟨global, project, hglobal, hproject, hloaded, rfl, husable⟩, o.openShell_of_usable husable⟩
  · rintro global project hglobal hproject ⟨settings, hsettings, -⟩
    obtain ⟨global', project', hglobal', hproject', -, rfl, -⟩ :=
      Options.settings_eq_ok_iff.mp hsettings
    rw [hsettings, hglobal.unique hglobal', hproject.unique hproject']

end Preparing

/-- The file of the project sets a sigil, and an option overrides it. -/
theorem prepare_begins_iff_override :
    let arguments := ["--prefix", "!", "--player", "Ann"]
    let around : Surroundings := ⟨fun _ => none, "/home", ("settings.json", .absent),
      fun _ => (".chatcmd/settings.json", .text "\x7b\"dispatch\":[\"$\"]\x7d")⟩
    let o : Options := { Options.default with sigil := some "!", player := "Ann" }
    Request.ofArguments arguments = .ok (.run o) ∧ emptyProject o around = false ∧
      prepare arguments around = .ok (.inr ⟨⟨builtinCommands World.host, "!", noActions,
        Suggest.score?⟩, "Ann", .start o.world⟩) ∧
      o.settings around = .ok ⟨"!", "info", false⟩ := by
  intro arguments around o
  have hread : Request.ofArguments arguments = .ok (.run o) := by decide +kernel
  have hdirectory : emptyProject o around = false := by decide +kernel
  have hproject : (around.projectFile (o.projectDirectory around)).2.Holds
      ⟨some "$", none, none⟩ := .text (by decide +kernel)
  obtain ⟨hbegins, hsettings⟩ := prepare_begins_iff hread hdirectory
    ⟨⟨builtinCommands World.host, "!", noActions, Suggest.score?⟩, "Ann", .start o.world⟩
  have hbegun := hbegins.mpr
    ⟨.empty, ⟨some "$", none, none⟩, .absent, hproject, by decide +kernel, by decide +kernel, rfl⟩
  exact ⟨hread, hdirectory, hbegun, hsettings _ _ .absent hproject hbegun⟩

/-- The environment sets an empty sigil, and an option overrides it by one that is usable.  The
settings of all layers could be used, and yet the shell does not begin. -/
theorem prepare_early_check :
    let arguments := ["--prefix", "!"]
    let around : Surroundings := ⟨fun name => if name = "CHATCMD_PREFIX" then some "" else none,
      "/home", ("settings.json", .absent), fun _ => (".chatcmd/settings.json", .absent)⟩
    let o : Options := { Options.default with sigil := some "!" }
    Request.ofArguments arguments = .ok (.run o) ∧ emptyProject o around = false ∧
      around.globalFile.2.Holds .empty ∧
      (around.projectFile (o.projectDirectory around)).2.Holds .empty ∧
      UsableSigil (highest Overlay.sigil (around.layers .empty .empty ++ [o.overlay]) "-") ∧
      prepare arguments around = .error (.start (.settings .emptySigil)) ∧
      ∀ input, launch arguments around input = ⟨1, []⟩ := by
  intro arguments around o
  have hread : Request.ofArguments arguments = .ok (.run o) := by decide +kernel
  have hsettings : o.settings around = .error .emptySigil := by decide +kernel
  have hprepare : prepare arguments around = .error (.start (.settings .emptySigil)) := by
    rw [prepare, hread]
    simp only [show emptyProject o around = false by decide, hsettings]
    rfl
  refine ⟨hread, by decide, .absent, .absent, by decide +kernel, hprepare, fun input => ?_⟩
  rw [launch, hprepare]
  rfl

end CommandTree
