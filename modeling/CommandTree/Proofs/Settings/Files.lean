import CommandTree.Proofs.Json.RoundTrip
import CommandTree.Proofs.Settings.Documents

/-!
# Settings saved and loaded

Settings are saved as a complete document, but they are loaded as a layer, in which
everything may be missing, and two different readers stand for the two.  A layer over
settings changes just what its document sets.  From that it follows how files combine.
Every layer has a document, one that is complete if the layer is, and so settings that
were saved come back.

## Main definitions

* `SettingsFile` — a text that is a settings file.
* `Combines` — one document stands for two, of which the second wins.
* `Overlay.toJson` — a layer as a document.

## Main results

* `sets_iff_get_merge`, `unset_iff_get_merge` — what a file changes, and what not.
* `Settings.merge_merge` — two layers one over the other.
* `settingsFile_compact` — every layer has a file.
* `settings_files` — **saving, loading, and laying files over settings**.
-/

namespace CommandTree

namespace Setting

variable {x : Setting} {j : Json} {o : Overlay}

/-! ### Laying layers over settings -/

/-- A layer over settings changes just what it sets. -/
theorem get_merge (x : Setting) (s : Settings) (o : Overlay) :
    x.get (s.merge o) = (x.pick o).getD (x.get s) := by
  cases x <;> rfl

/-- Whatever a value is, there are settings among which it is not. -/
theorem exists_get_ne (x : Setting) (v : x.Value) : ∃ s : Settings, x.get s ≠ v := by
  have hne : ∀ v : String, v ++ "!" ≠ v := fun v h => by simpa using congrArg String.length h
  cases x with
  | sigil => exact ⟨⟨v ++ "!", "", false⟩, hne v⟩
  | level => exact ⟨⟨"", v ++ "!", false⟩, hne v⟩
  | jsonLogs => exact ⟨⟨"", "", !v⟩, by cases v <;> decide⟩

/-- A file sets a setting to what it is over any settings. -/
theorem sets_iff_get_merge (h : Overlay.ofJson? j = some o) (v : x.Value) :
    x.Sets j v ↔ ∀ s : Settings, x.get (s.merge o) = v := by
  rw [← pick_eq_some_iff h]
  constructor
  · intro hpick s
    rw [get_merge, hpick, Option.getD_some]
  · intro hget
    cases hpick : x.pick o with
    | none =>
      obtain ⟨s, hs⟩ := x.exists_get_ne v
      exact absurd (by rw [← hget s, get_merge, hpick, Option.getD_none]) hs
    | some w => rw [← hget .default, get_merge, hpick, Option.getD_some]

/-- A file leaves a setting as it is over any settings just if it does not set it. -/
theorem unset_iff_get_merge (h : Overlay.ofJson? j = some o) :
    x.Unset j ↔ ∀ s : Settings, x.get (s.merge o) = x.get s := by
  rw [← pick_eq_none_iff h]
  constructor
  · intro hpick s
    rw [get_merge, hpick, Option.getD_none]
  · intro hget
    cases hpick : x.pick o with
    | none => rfl
    | some w =>
      obtain ⟨s, hs⟩ := x.exists_get_ne w
      exact absurd (by rw [← hget s, get_merge, hpick, Option.getD_some]) hs

end Setting

/-- Settings are the same if each of them is. -/
theorem Settings.eq_of_get {s t : Settings} (h : ∀ x : Setting, x.get s = x.get t) : s = t := by
  obtain ⟨sigil, level, jsonLogs⟩ := s
  obtain ⟨sigil', level', jsonLogs'⟩ := t
  obtain rfl : sigil = sigil' := h .sigil
  obtain rfl : level = level' := h .level
  obtain rfl : jsonLogs = jsonLogs' := h .jsonLogs
  rfl

/-- A layer over itself changes nothing more. -/
theorem Settings.merge_self (s : Settings) (o : Overlay) : (s.merge o).merge o = s.merge o := by
  refine Settings.eq_of_get fun x => ?_
  rw [Setting.get_merge, Setting.get_merge]
  cases x.pick o <;> rfl

/-- Two layers one over the other are like the one that sets what the upper sets, and else what the
lower does. -/
theorem Settings.merge_merge {o p q : Overlay}
    (h : ∀ x : Setting, x.pick q = (x.pick p).or (x.pick o)) (s : Settings) :
    s.merge q = (s.merge o).merge p := by
  refine Settings.eq_of_get fun x => ?_
  rw [Setting.get_merge, Setting.get_merge, Setting.get_merge, h]
  cases x.pick p <;> rfl

/-! ### Files -/

/-- A text is a settings file: it holds the document, which stands for the layer. -/
structure SettingsFile (text : String) (document : Json) (layer : Overlay) : Prop where
  /-- The text holds the document. -/
  parsed : Json.parse? text = some document
  /-- The document stands for the layer. -/
  read : Overlay.ofJson? document = some layer

/-- A text that is a settings file can be loaded, and no other. -/
theorem ofFile_text_eq_ok_iff {name text : String} {o : Overlay} :
    Overlay.ofFile name (.text text) = .ok o ↔ ∃ document, SettingsFile text document o := by
  rw [Overlay.ofFile]
  constructor
  · intro h
    split at h
    · next layer hlayer =>
      cases h
      obtain ⟨document, hparsed, hread⟩ := Option.bind_eq_some_iff.mp hlayer
      exact ⟨document, hparsed, hread⟩
    · cases h
  · rintro ⟨document, hparsed, hread⟩
    rw [hparsed, Option.bind_some, hread]

/-- A document takes each setting from the second of two documents if that one sets it, and from the
first otherwise. -/
def Combines (j k m : Json) : Prop :=
  ∀ (x : Setting) (v : x.Value), x.Sets m v ↔ x.Sets k v ∨ (x.Unset k ∧ x.Sets j v)

theorem combines_iff {j k m : Json} {o p q : Overlay} (hj : Overlay.ofJson? j = some o)
    (hk : Overlay.ofJson? k = some p) (hm : Overlay.ofJson? m = some q) :
    Combines j k m ↔ ∀ x : Setting, x.pick q = (x.pick p).or (x.pick o) := by
  refine forall_congr' fun x => ?_
  simp only [← Setting.pick_eq_some_iff hj, ← Setting.pick_eq_some_iff hk,
    ← Setting.pick_eq_some_iff hm, ← Setting.pick_eq_none_iff hk, ← Option.or_eq_some_iff]
  exact ⟨Option.ext, fun h v => by rw [h]⟩

/-! ### Layers as documents -/

/-- An object is read by its keys. -/
theorem Json.members?_ofFields (fields : List (String × Json)) (keys : List String) :
    (Json.ofFields fields).members? keys = keys.mapM fun key => Json.atMostOne? key fields := by
  show ((Json.ofFields fields).fields?.bind fun fields => _) = _
  rw [Json.fields?_ofFields, Option.bind_some]

namespace Overlay

open Json

/-- A layer as a document, with `null` for what it does not set. -/
def toJson (o : Overlay) : Json :=
  .ofFields [("dispatch", .ofFields [("prefix", (o.sigil.map .ofText).getD .null)]),
    ("logging", .ofFields [("level", (o.level.map .ofText).getD .null),
      ("json", (o.jsonLogs.map .bool).getD .null)])]

/-- The layer that sets all settings to those given. -/
def ofSettings (s : Settings) : Overlay := ⟨some s.sigil, some s.level, some s.jsonLogs⟩

/-- Settings are saved as the document of the layer that sets them all. -/
theorem toJson_ofSettings (s : Settings) : (ofSettings s).toJson = s.toJson := rfl

theorem isWritten_toJson (o : Overlay) : o.toJson.IsWritten := by
  have htext : ∀ s : Option String, ((s.map .ofText).getD .null : Json).IsWritten := by
    rintro (_ | s)
    · trivial
    · exact isWritten_ofText s
  have hbool : ((o.jsonLogs.map .bool).getD .null : Json).IsWritten := by
    cases o.jsonLogs <;> trivial
  refine isWritten_ofFields (List.forall_mem_cons.mpr ⟨?_, List.forall_mem_singleton.mpr ?_⟩)
  · exact isWritten_ofFields (List.forall_mem_singleton.mpr (htext o.sigil))
  · exact isWritten_ofFields
      (List.forall_mem_cons.mpr ⟨htext o.level, List.forall_mem_singleton.mpr hbool⟩)

theorem ofJson?_toJson (o : Overlay) : ofJson? o.toJson = some o := by
  have htext : ∀ s : Option String,
      Json.optional? Json.text? (some ((s.map .ofText).getD .null)) = some s := by
    rintro (_ | s)
    · rfl
    · simp [Json.optional?, ofText, text?, unescape?_escape]
  have hbool : ∀ b : Option Bool,
      Json.optional? Json.bool? (some ((b.map .bool).getD .null)) = some b := by
    rintro (_ | b) <;> rfl
  have hall (fields : List (String × Json)) (keys : List String) :
      (Json.ofFields fields).allMembers? keys = keys.mapM fun key => atMostOne? key fields :=
    Json.members?_ofFields fields keys
  have hdispatch : sigilOfJson? (.ofFields [("prefix", (o.sigil.map .ofText).getD .null)]) =
      some o.sigil := by
    simp [sigilOfJson?, hall, atMostOne?, htext]
  have hlogging : loggingOfJson? (.ofFields [("level", (o.level.map .ofText).getD .null),
      ("json", (o.jsonLogs.map .bool).getD .null)]) = some (o.level, o.jsonLogs) := by
    simp [loggingOfJson?, hall, atMostOne?, htext, hbool]
  simp [ofJson?, toJson, Json.members?_ofFields, atMostOne?, hdispatch, hlogging]

end Overlay

/-! ### Saving and loading -/

/-- **Every layer has a file.** -/
theorem settingsFile_compact (o : Overlay) : SettingsFile o.toJson.compact o.toJson o where
  parsed := Json.parse?_compact o.isWritten_toJson
  read := o.ofJson?_toJson

/-- **Settings saved, loaded, and laid over others.**  Settings that were saved can be loaded, and
laid over any others they are as they were.  A file laid over settings twice does what it does once.
It leaves a setting as it is just if it does not set it, and changes it to what it sets it to.  Two
files one over the other do what any one file does that takes each setting from the upper file if
that sets it and from the lower one otherwise, and there is such a file. -/
theorem settings_files (b : Settings) :
    (∀ (c : Settings) (name : String), ∃ saved,
      Overlay.ofFile name (.text c.toJson.compact) = .ok saved ∧ b.merge saved = c) ∧
    ∀ {f : String} {j : Json} {o : Overlay}, SettingsFile f j o →
      (b.merge o).merge o = b.merge o ∧
      (∀ x : Setting, (x.Unset j ↔ ∀ s : Settings, x.get (s.merge o) = x.get s) ∧
        ∀ v, x.Sets j v ↔ ∀ s : Settings, x.get (s.merge o) = v) ∧
      ∀ {g : String} {k : Json} {p : Overlay}, SettingsFile g k p →
        (∀ {h m q}, SettingsFile h m q → Combines j k m → b.merge q = (b.merge o).merge p) ∧
        ∃ h m q, SettingsFile h m q ∧ Combines j k m := by
  refine ⟨fun c name => ⟨.ofSettings c, ?_, rfl⟩, fun {f j o} hf => ⟨b.merge_self o, fun x =>
    ⟨Setting.unset_iff_get_merge hf.read, Setting.sets_iff_get_merge hf.read⟩,
    fun {g k p} hg => ⟨fun {h m q} hh hcombines => ?_, ?_⟩⟩⟩
  · rw [← Overlay.toJson_ofSettings]
    exact ofFile_text_eq_ok_iff.mpr ⟨_, settingsFile_compact (.ofSettings c)⟩
  · exact Settings.merge_merge ((combines_iff hf.read hg.read hh.read).mp hcombines) b
  · let q : Overlay := ⟨p.sigil.or o.sigil, p.level.or o.level, p.jsonLogs.or o.jsonLogs⟩
    have hq := settingsFile_compact q
    refine ⟨_, _, q, hq, (combines_iff hf.read hg.read hq.read).mpr fun x => ?_⟩
    cases x <;> rfl

/-- One file sets the level and says of the sigil that it does not set it, another one is a list. -/
theorem settings_files_list :
    let j : Json := .ofFields [("logging", .ofFields [("level", .ofText "debug"), ("new", .null)]),
      ("dispatch", .ofFields [("prefix", .null)])]
    let k : Json := .array [.array [.null], .array [.ofText "warn", .bool true]]
    let o : Overlay := ⟨none, some "debug", none⟩
    let p : Overlay := ⟨none, some "warn", some true⟩
    SettingsFile j.compact j o ∧ SettingsFile k.compact k p ∧ Setting.sigil.Unset j ∧
      Setting.level.Sets j "debug" ∧ ∃ m, Combines j k m := by
  intro j k o p
  have hj : SettingsFile j.compact j o := by
    refine ⟨Json.parse?_compact (Json.isWritten_ofFields ?_), by decide +kernel⟩
    exact List.forall_mem_cons.mpr ⟨Json.isWritten_ofFields (by simp [Json.IsWritten]),
      List.forall_mem_singleton.mpr (Json.isWritten_ofFields (by simp [Json.IsWritten]))⟩
  have hk : SettingsFile k.compact k p :=
    ⟨Json.parse?_compact (by simp [k, Json.IsWritten, Json.AreWritten]), by decide +kernel⟩
  obtain ⟨-, hsettings, hfiles⟩ := (settings_files .default).2 hj
  obtain ⟨-, h, m, q, -, hcombines⟩ := hfiles hk
  have hsigil : Setting.sigil.Unset j := (hsettings .sigil).1.mpr fun _ => rfl
  have hlevel : Setting.level.Sets j "debug" := ((hsettings .level).2 _).mpr fun _ => rfl
  exact ⟨hj, hk, hsigil, hlevel, m, hcombines⟩

end CommandTree
