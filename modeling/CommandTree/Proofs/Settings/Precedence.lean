import CommandTree.Proofs.Settings.Files
import CommandTree.Proofs.Settings.Layers

/-!
# Which layer prevails

Below the options of the program settings come from the environment, from files and from
the defaults.  What each of these layers sets is said here by itself, with a file taken as
the document it holds and the environment as its variables; and for each setting, whatever
becomes of the others, the layers are looked through from the highest until one sets it.
Loading goes the other way, over all settings at once, and asks for the sigil only when it
has arrived at the top.  Nevertheless what it finds is what prevails, and it fails only for
a file that cannot be used or for the sigil that prevails, not for one that is replaced.

## Main definitions

* `Layer`, `Layer.Sets` — the layers, and what each of them sets.
* `Setting.Prevails` — the value of a setting in the highest layer that sets it.
* `FileContent.Broken` — a file that cannot be used.

## Main results

* `says_file`, `says_environment` — what a layer sets is what is read of it.
* `prevails_iff` — what prevails over several layers is what they give together.
* `load_eq_ok_iff_prevails` — when settings are loaded, and which.
* `Settings.load_precedence` — **what is loaded, and when loading fails**.
-/

namespace CommandTree

/-! ### Layers -/

/-- Where settings come from, below the options of the program. -/
inductive Layer where
  /-- The defaults. -/
  | default
  /-- A place where a settings file may stand. -/
  | file (content : FileContent)
  /-- The environment. -/
  | environment (env : String → Option String)

/-- The layer sets the setting to the value. -/
inductive Layer.Sets : (x : Setting) → Layer → x.Value → Prop
  /-- The defaults set every setting. -/
  | default (x : Setting) : Sets x .default (x.get .default)
  /-- A file sets what its document sets. -/
  | file {x : Setting} {text : String} {document : Json} {v : x.Value}
      (hparsed : Json.parse? text = some document) (hsets : x.Sets document v) :
      Sets x (.file (.text text)) v
  /-- A variable of the environment holds the sigil, usable or not. -/
  | sigil {env : String → Option String} {v : String}
      (hvariable : env "CHATCMD_PREFIX" = some v) : Sets .sigil (.environment env) v
  /-- A variable of the environment holds the level. -/
  | level {env : String → Option String} {v : String}
      (hvariable : env "CHATCMD_LOG_LEVEL" = some v) : Sets .level (.environment env) v
  /-- A variable of the environment holds one of two words; any other word sets nothing. -/
  | jsonLogs {env : String → Option String} {v : Bool}
      (hvariable : env "CHATCMD_LOG_JSON" = some (if v then "true" else "false")) :
      Sets .jsonLogs (.environment env) v

/-- The value prevails over the layers, which are given from the highest to the lowest: it is set by
the first of them that sets any. -/
inductive Setting.Prevails (x : Setting) (v : x.Value) : List Layer → Prop
  /-- The highest layer sets it. -/
  | top {layer : Layer} {lower : List Layer} (hsets : layer.Sets x v) :
      Prevails x v (layer :: lower)
  /-- The highest layer does not set it. -/
  | under {layer : Layer} {lower : List Layer} (hnone : ∀ w, ¬layer.Sets x w)
      (hlower : Prevails x v lower) : Prevails x v (layer :: lower)

/-- A file that cannot be used: something stands there that cannot be read, or a text that is no
settings file. -/
inductive FileContent.Broken : FileContent → Prop
  /-- It cannot be read. -/
  | unreadable : Broken .unreadable
  /-- It can be read, but it is no settings file. -/
  | unparsable {text : String} (h : ∀ document layer, ¬SettingsFile text document layer) :
      Broken (.text text)

/-! ### What layers say -/

/-- What the layer sets was read of it. -/
def Layer.Says (layer : Layer) (o : Overlay) : Prop :=
  ∀ (x : Setting) (v : x.Value), layer.Sets x v ↔ x.pick o = some v

theorem says_file {content : FileContent} {o : Overlay} (h : content.Holds o) :
    (Layer.file content).Says o := by
  intro x v
  cases h with
  | absent =>
    constructor
    · intro hsets
      cases hsets
    · intro hpick
      cases x <;> cases hpick
  | @text text _ hread =>
    obtain ⟨document, hparsed, hread⟩ := Option.bind_eq_some_iff.mp hread
    rw [Setting.pick_eq_some_iff hread]
    constructor
    · intro hsets
      cases hsets with
      | file hparsed' hsets =>
        obtain rfl := Option.some.inj (hparsed.symm.trans hparsed')
        exact hsets
    · exact .file hparsed

theorem boolOfWord?_eq_some_iff {word : String} {v : Bool} :
    boolOfWord? word = some v ↔ word = if v then "true" else "false" := by
  unfold boolOfWord?
  split
  · cases v <;> simp
  · cases v <;> simp
  · next htrue hfalse =>
    cases v
    · simpa using hfalse
    · simpa using htrue

theorem says_environment (env : String → Option String) :
    (Layer.environment env).Says (.ofEnvironment env) := by
  intro x v
  cases x with
  | sigil =>
    constructor
    · intro hsets
      cases hsets with
      | sigil hvariable => exact hvariable
    · exact .sigil
  | level =>
    constructor
    · intro hsets
      cases hsets with
      | level hvariable => exact hvariable
    · exact .level
  | jsonLogs =>
    show _ ↔ (env "CHATCMD_LOG_JSON").bind boolOfWord? = some v
    simp only [Option.bind_eq_some_iff, boolOfWord?_eq_some_iff]
    constructor
    · intro hsets
      cases hsets with
      | jsonLogs hvariable => exact ⟨_, hvariable, rfl⟩
    · rintro ⟨word, hvariable, rfl⟩
      exact .jsonLogs hvariable

theorem holds_text_iff {text : String} {o : Overlay} :
    (FileContent.text text).Holds o ↔ ∃ document, SettingsFile text document o :=
  (@Overlay.ofFile_eq_ok_iff "" _ _).symm.trans ofFile_text_eq_ok_iff

/-- A file is broken if there is no layer in it. -/
theorem broken_iff {content : FileContent} : content.Broken ↔ ∀ o, ¬content.Holds o := by
  constructor
  · intro h o hholds
    cases h with
    | unreadable => cases hholds
    | unparsable hno =>
      obtain ⟨document, hfile⟩ := holds_text_iff.mp hholds
      exact hno document o hfile
  · intro h
    cases content with
    | absent => exact absurd .absent (h _)
    | unreadable => exact .unreadable
    | text text =>
      exact .unparsable fun document o hfile => h o (holds_text_iff.mpr ⟨document, hfile⟩)

/-- If no file is broken, there are the layers that the files hold. -/
theorem exists_overlays_iff (files : List (String × FileContent)) :
    (∃ overlays, List.Forall₂ (fun file overlay => file.2.Holds overlay) files overlays) ↔
      ∀ file ∈ files, ¬file.2.Broken := by
  induction files with
  | nil => exact ⟨fun _ _ h => absurd h List.not_mem_nil, fun _ => ⟨[], .nil⟩⟩
  | cons file files ih =>
    rw [List.forall_mem_cons, ← ih, broken_iff]
    simp only [List.forall₂_cons_left_iff, not_forall, not_not]
    constructor
    · rintro ⟨_, o, overlays, hfile, hfiles, rfl⟩
      exact ⟨⟨o, hfile⟩, overlays, hfiles⟩
    · rintro ⟨⟨o, hfile⟩, overlays, hfiles⟩
      exact ⟨_, o, overlays, hfile, hfiles, rfl⟩

/-! ### Looking through layers -/

namespace Setting

variable {x : Setting} {v : x.Value}

/-- At the bottom the default prevails. -/
theorem prevails_default : x.Prevails v [.default] ↔ v = x.get .default := by
  constructor
  · rintro (hsets | ⟨hnone, -⟩)
    · cases hsets
      rfl
    · exact absurd (.default x) (hnone _)
  · rintro rfl
    exact .top (.default x)

/-- One more layer hides what it sets and lets through what it does not. -/
theorem prevails_cons {layer : Layer} {o : Overlay} (h : layer.Says o) {lower : List Layer}
    {below : x.Value} (hlower : ∀ v, x.Prevails v lower ↔ v = below) :
    x.Prevails v (layer :: lower) ↔ v = (x.pick o).getD below := by
  cases hpick : x.pick o with
  | none =>
    have hnone : ∀ w, ¬layer.Sets x w := fun w => by simp [h x w, hpick]
    rw [Option.getD_none, ← hlower]
    constructor
    · rintro (hsets | ⟨-, hprevails⟩)
      · exact absurd hsets (hnone v)
      · exact hprevails
    · exact .under hnone
  | some w =>
    have hsets : ∀ u, layer.Sets x u ↔ w = u := fun u => by rw [h, hpick, Option.some.injEq]
    rw [Option.getD_some]
    constructor
    · rintro (hset | ⟨hnone, -⟩)
      · exact ((hsets v).mp hset).symm
      · exact absurd ((hsets w).mpr rfl) (hnone w)
    · rintro rfl
      exact .top ((hsets v).mpr rfl)

/-- **What prevails over several layers is what they give together.** -/
theorem prevails_iff {layers : List Layer} {overlays : List Overlay}
    (h : List.Forall₂ Layer.Says layers overlays) (v : x.Value) :
    x.Prevails v (layers ++ [.default]) ↔ v = x.get (.ofLayers overlays.reverse) := by
  induction h generalizing v with
  | nil => cases x <;> exact prevails_default
  | cons hsays _ ih =>
    rw [List.reverse_cons, ← Settings.merge_ofLayers, get_merge]
    exact prevails_cons hsays ih

end Setting

/-! ### Loading -/

/-- The layers below the options from the highest to the lowest, given the files from the lowest to
the highest. -/
def Layer.all (files : List (String × FileContent)) (environment : String → Option String) :
    List Layer :=
  .environment environment :: files.reverse.map (fun file => .file file.2) ++ [.default]

/-- The project is above everything global. -/
example (global project : String × FileContent) (environment : String → Option String) :
    Layer.all [global, project] environment =
      [.environment environment, .file project.2, .file global.2, .default] := rfl

section Loading

variable {files : List (String × FileContent)} {environment : String → Option String}

theorem prevails_all_iff {overlays : List Overlay}
    (h : List.Forall₂ (fun file overlay => file.2.Holds overlay) files overlays) {x : Setting}
    {v : x.Value} :
    x.Prevails v (Layer.all files environment) ↔
      v = x.get (.ofLayers (overlays ++ [.ofEnvironment environment])) := by
  have hfiles : List.Forall₂ Layer.Says (files.reverse.map fun file => .file file.2)
      overlays.reverse :=
    List.forall₂_map_left_iff.mpr
      (List.forall₂_reverse_iff.mpr (h.imp fun _ _ hholds => says_file hholds))
  have hall := Setting.prevails_iff (x := x) (.cons (says_environment environment) hfiles) v
  rwa [List.reverse_cons, List.reverse_reverse] at hall

/-- If no file is broken, of every setting exactly one value prevails. -/
theorem existsUnique_prevails (h : ∀ file ∈ files, ¬file.2.Broken) (x : Setting) :
    ∃! v, x.Prevails v (Layer.all files environment) := by
  obtain ⟨overlays, hfiles⟩ := (exists_overlays_iff files).mpr h
  exact ⟨_, (prevails_all_iff hfiles).mpr rfl, fun v hv => (prevails_all_iff hfiles).mp hv⟩

/-- **Settings are loaded** just if no file is broken, each setting is what prevails, and the sigil
is usable. -/
theorem load_eq_ok_iff_prevails {settings : Settings} :
    Settings.load files environment = .ok settings ↔
      (∀ file ∈ files, ¬file.2.Broken) ∧
      (∀ x : Setting, x.Prevails (x.get settings) (Layer.all files environment)) ∧
      UsableSigil settings.sigil := by
  rw [Settings.load_eq_ok_iff, ← exists_overlays_iff]
  constructor
  · rintro ⟨overlays, hfiles, rfl, husable⟩
    exact ⟨⟨overlays, hfiles⟩, fun x => (prevails_all_iff hfiles).mpr rfl, husable⟩
  · rintro ⟨⟨overlays, hfiles⟩, hprevails, husable⟩
    have hsettings : settings = .ofLayers (overlays ++ [.ofEnvironment environment]) :=
      Settings.eq_of_get fun x => (prevails_all_iff hfiles).mp (hprevails x)
    exact ⟨overlays, hfiles, hsettings, husable⟩

/-- A usable sigil that prevails over files that are not broken is all that loading needs. -/
theorem exists_load_eq_ok {sigil : String} (h : ∀ file ∈ files, ¬file.2.Broken)
    (hsigil : Setting.sigil.Prevails sigil (Layer.all files environment))
    (husable : UsableSigil sigil) : ∃ settings, Settings.load files environment = .ok settings := by
  obtain ⟨overlays, hfiles⟩ := (exists_overlays_iff files).mpr h
  obtain rfl := (prevails_all_iff hfiles).mp hsigil
  exact ⟨_, load_eq_ok_iff_prevails.mpr ⟨h, fun x => (prevails_all_iff hfiles).mpr rfl, husable⟩⟩

end Loading

/-- **What is loaded, and when loading fails.**  The files are given from the lowest to the highest,
the global one before that of the project.  Settings are loaded just if no file is broken, each
setting is what prevails over all layers, and the sigil among them is usable; loading fails just if
a file is broken or the sigil that prevails cannot be used.  A settings file does not set a setting
just if its section or its key is missing there or it is `null`. -/
theorem Settings.load_precedence (files : List (String × FileContent))
    (environment : String → Option String) :
    (∀ settings, Settings.load files environment = .ok settings ↔
      (∀ file ∈ files, ¬file.2.Broken) ∧
      (∀ x : Setting, x.Prevails (x.get settings) (Layer.all files environment)) ∧
      UsableSigil settings.sigil) ∧
    ((∃ e, Settings.load files environment = .error e) ↔
      (∃ file ∈ files, file.2.Broken) ∨
        ∃ sigil, Setting.sigil.Prevails sigil (Layer.all files environment) ∧
          ¬UsableSigil sigil) ∧
    ∀ {text : String} {document : Json} {layer : Overlay}, SettingsFile text document layer →
      ∀ x : Setting, (∀ v, ¬(Layer.file (.text text)).Sets x v) ↔ x.Unset document := by
  refine ⟨fun settings => load_eq_ok_iff_prevails, ⟨?_, ?_⟩,
    fun {text document layer} hfile x => ?_⟩
  · rintro ⟨e, he⟩
    by_cases hsound : ∀ file ∈ files, ¬file.2.Broken
    · obtain ⟨sigil, hsigil, -⟩ := existsUnique_prevails hsound .sigil
      refine .inr ⟨sigil, hsigil, fun husable => ?_⟩
      obtain ⟨settings, hok⟩ := exists_load_eq_ok hsound hsigil husable
      rw [he] at hok
      cases hok
    · simp only [not_forall, not_not, exists_prop] at hsound
      exact .inl hsound
  · intro hbad
    cases h : Settings.load files environment with
    | error e => exact ⟨e, rfl⟩
    | ok settings =>
      obtain ⟨hsound, hprevails, husable⟩ := load_eq_ok_iff_prevails.mp h
      rcases hbad with ⟨file, hmem, hbroken⟩ | ⟨sigil, hsigil, hunusable⟩
      · exact absurd hbroken (hsound file hmem)
      · -- No other sigil prevails than the one that was loaded.
        have hsame : sigil = settings.sigil :=
          (existsUnique_prevails hsound .sigil).unique hsigil (hprevails .sigil)
        exact absurd (hsame ▸ husable) hunusable
  · rw [← Setting.pick_eq_none_iff hfile.read, Option.eq_none_iff_forall_ne_some]
    exact forall_congr' fun v => not_congr
      (says_file (holds_text_iff.mpr ⟨document, hfile⟩) x v)

/-- The sigil of the global file cannot be used, but the project replaces it.  The project leaves
the level to the global file, and the word in the environment is none that counts. -/
theorem Settings.load_precedence_replaced :
    let lower := "\x7b\"dispatch\":[\"\"],\"logging\":[\"warn\",null]\x7d"
    let text := "\x7b\"dispatch\":[\"!\"],\"logging\":\x7b\"level\":null,\"json\":true\x7d\x7d"
    let files := [("global", .text lower), ("project", .text text)]
    let environment := fun name => if name = "CHATCMD_LOG_JSON" then some "yes" else none
    let settings : Settings := ⟨"!", "warn", true⟩
    Settings.load files environment = .ok settings ∧
      (∀ x : Setting, x.Prevails (x.get settings) (Layer.all files environment)) ∧
      ∃ document, SettingsFile text document ⟨some "!", none, some true⟩ ∧
        Setting.level.Unset document := by
  intro lower text files environment settings
  obtain ⟨hload, -, hunset⟩ := Settings.load_precedence files environment
  have hok : Settings.load files environment = .ok settings := by decide +kernel
  have hholds : (FileContent.text text).Holds ⟨some "!", none, some true⟩ :=
    .text (by decide +kernel)
  obtain ⟨document, hfile⟩ := holds_text_iff.mp hholds
  refine ⟨hok, ((hload settings).mp hok).2.1, document, hfile, (hunset hfile .level).mp ?_⟩
  intro v hsets
  cases (says_file hholds .level v).mp hsets

end CommandTree
