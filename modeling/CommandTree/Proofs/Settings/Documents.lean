import CommandTree.Settings.Basic
import Mathlib.Data.List.Forall2
import Mathlib.Data.List.Nodup

/-!
# What a settings document says

A settings file is a document with two sections, and all of it may be missing.  What it
says of a setting is looked up here value by value, without a reader: it sets a setting
if a value stands under the key of the setting in its section, and `null` does not count.
The reader of layers goes through all keys at once and refuses what is repeated; what it
does not refuse it reads just so.

## Main definitions

* `Json.Under` — a value stands under a key of a document.
* `Setting` — one of the settings, with its place in a document.
* `Setting.Sets`, `Setting.Unset` — what a document says of a setting.

## Main results

* `members?_spec` — what is read under several keys is what stands there.
* `says_of_ofJson?` — **what is read of a document is what it says**.
* `pick_eq_some_iff`, `pick_eq_none_iff` — what its layer sets, and what not.
-/

namespace CommandTree

/-! ### Values in a document -/

/-- A value stands under one of the keys of a document: as a field of an object, or in an array,
whose items take the places of the keys. -/
inductive Json.Under (keys : List String) (key : String) : Json → Json → Prop
  /-- A field. -/
  | field {fields : List (List Char × Json)} {lexeme : List Char} {value : Json}
    (hfield : (lexeme, value) ∈ fields) (hkey : Json.unescape? lexeme = some key.toList) :
    Under keys key (.object fields) value
  /-- An item. -/
  | item {items : List Json} {i : Nat} {value : Json}
    (hkey : keys[i]? = some key) (hitem : items[i]? = some value) :
    Under keys key (.array items) value

/-- Reading all of a list reads each item. -/
theorem forall₂_of_mapM {α β : Type} {f : α → Option β} {l : List α} {values : List β}
    (h : l.mapM f = some values) : List.Forall₂ (fun a b => f a = some b) l values := by
  induction l generalizing values with
  | nil =>
    cases h
    exact .nil
  | cons a l ih =>
    simp only [List.mapM_cons, Option.bind_eq_bind, Option.bind_eq_some_iff, Option.pure_def,
      Option.some.injEq] at h
    obtain ⟨b, hb, rest, hrest, rfl⟩ := h
    exact .cons hb (ih hrest)

namespace Json

variable {keys : List String} {key : String} {j : Json} {values : List (Option Json)}

/-- The fields of an object under a text are those whose keys stand for it. -/
theorem mem_fields? {raw : List (List Char × Json)} {fields : List (String × Json)}
    (h : (Json.object raw).fields? = some fields) {value : Json} :
    (key, value) ∈ fields ↔
      ∃ lexeme, (lexeme, value) ∈ raw ∧ unescape? lexeme = some key.toList := by
  replace h := forall₂_of_mapM h
  induction h with
  | nil => simp
  | @cons entry field raw fields hfield _ ih =>
    obtain ⟨lexeme, value'⟩ := entry
    obtain ⟨cs, hcs, rfl⟩ := Option.map_eq_some_iff.mp hfield
    have hfirst : (key, value) = (String.ofList cs, value') ↔
        value = value' ∧ unescape? lexeme = some key.toList := by
      rw [hcs, Option.some.injEq, Prod.mk.injEq, and_comm]
      refine and_congr_right fun _ => ⟨?_, ?_⟩
      · rintro rfl
        exact String.toList_ofList.symm
      · rintro rfl
        exact String.ofList_toList.symm
    simp only [List.mem_cons, hfirst, ih]
    constructor
    · rintro (⟨rfl, hkey⟩ | ⟨lexeme', hmem, hkey⟩)
      · exact ⟨lexeme, .inl rfl, hkey⟩
      · exact ⟨lexeme', .inr hmem, hkey⟩
    · rintro ⟨lexeme', heq | hmem, hkey⟩
      · cases heq
        exact .inl ⟨rfl, hkey⟩
      · exact .inr ⟨lexeme', hmem, hkey⟩

/-- A key that is not repeated has the value of its one field, or none. -/
theorem mem_iff_of_atMostOne? {fields : List (String × Json)} {found : Option Json}
    (h : atMostOne? key fields = some found) (value : Json) :
    (key, value) ∈ fields ↔ found = some value := by
  have hmem : (key, value) ∈ fields ↔ (key, value) ∈ fields.filter (·.1 == key) := by simp
  rw [hmem]
  unfold atMostOne? at h
  split at h
  · next hnone =>
    cases h
    simp [hnone]
  · next key' value' hone =>
    cases h
    have hkey : key' = key := by
      have hfield : (key', value') ∈ fields.filter (·.1 == key) := by simp [hone]
      simpa using (List.mem_filter.mp hfield).2
    simp [hone, hkey, eq_comm]
  · cases h

/-- **What is read from a document is what stands under its keys.** -/
theorem members?_spec (hkeys : keys.Nodup) (h : j.members? keys = some values) :
    List.Forall₂ (fun key found => ∀ value, Under keys key j value ↔ found = some value)
      keys values := by
  unfold members? at h
  split at h
  · next raw =>
    obtain ⟨fields, hfields, hread⟩ := Option.bind_eq_some_iff.mp h
    refine (forall₂_of_mapM hread).imp fun key found hfound value => ?_
    rw [← mem_iff_of_atMostOne? hfound, mem_fields? hfields]
    constructor
    · rintro ⟨hfield, hkey⟩
      exact ⟨_, hfield, hkey⟩
    · rintro ⟨lexeme, hfield, hkey⟩
      exact .field hfield hkey
  · next items =>
    split at h
    · next hlength =>
      cases h
      rw [List.forall₂_iff_get]
      refine ⟨by simp; omega, fun i hi hi' value => ?_⟩
      have hfound : items[i]? =
          (items.map some ++ List.replicate (keys.length - items.length) none)[i] := by
        rcases Nat.lt_or_ge i items.length with hlt | hge
        · simp [hlt]
        · simp [hge]
      rw [List.get_eq_getElem, List.get_eq_getElem, ← hfound]
      constructor
      · rintro (_ | ⟨hkey, hitem⟩)
        -- No other place has the same key.
        obtain rfl := (List.getElem?_inj hi hkeys).mp
          ((List.getElem?_eq_getElem hi).trans hkey.symm)
        exact hitem
      · exact fun hitem => .item (List.getElem?_eq_getElem hi) hitem
    · cases h
  · cases h

/-- A document that holds all its values is read like one that need not. -/
theorem members?_of_allMembers? (h : j.allMembers? keys = some values) :
    j.members? keys = some values := by
  unfold allMembers? at h
  split at h
  · next items =>
    split at h
    · next hlength =>
      cases h
      simp [members?, hlength]
    · cases h
  · exact h

end Json

/-! ### Settings in a document -/

/-- One of the settings. -/
inductive Setting where
  /-- The text that commands begin with. -/
  | sigil
  /-- What is logged. -/
  | level
  /-- Whether the log is written as JSON. -/
  | jsonLogs
  deriving DecidableEq, Repr

/-- The sections of a document. -/
def sections : List String := ["dispatch", "logging"]

namespace Setting

/-- What a setting is set to. -/
abbrev Value : Setting → Type
  | .sigil | .level => String
  | .jsonLogs => Bool

/-- The section that a setting stands in. -/
def part : Setting → String
  | .sigil => "dispatch"
  | .level | .jsonLogs => "logging"

/-- The keys of the section that a setting stands in. -/
def keys : Setting → List String
  | .sigil => ["prefix"]
  | .level | .jsonLogs => ["level", "json"]

/-- The key of a setting in its section. -/
def key : Setting → String
  | .sigil => "prefix"
  | .level => "level"
  | .jsonLogs => "json"

/-- What a value in a document sets a setting to. -/
def read : (x : Setting) → Json → Option x.Value
  | .sigil | .level => Json.text?
  | .jsonLogs => Json.bool?

/-- What a setting is set to among all settings. -/
def get : (x : Setting) → Settings → x.Value
  | .sigil => Settings.sigil
  | .level => Settings.level
  | .jsonLogs => Settings.jsonLogs

/-- What a layer sets a setting to, if it does. -/
def pick : (x : Setting) → Overlay → Option x.Value
  | .sigil => Overlay.sigil
  | .level => Overlay.level
  | .jsonLogs => Overlay.jsonLogs

/-- The value stands for the setting in the document: under its key in its section. -/
def Stands (x : Setting) (j value : Json) : Prop :=
  ∃ part, Json.Under sections x.part j part ∧ Json.Under x.keys x.key part value

/-- The document sets the setting. -/
def Sets (x : Setting) (j : Json) (v : x.Value) : Prop :=
  ∃ value, x.Stands j value ∧ x.read value = some v

/-- The document does not set the setting: its section is missing, or its key is missing there, or
the value is `null`. -/
def Unset (x : Setting) (j : Json) : Prop := ∀ value, x.Stands j value → value = .null

variable {x : Setting} {j part : Json} {o : Overlay}

/-- Of the values that stand for a setting was read what they say. -/
structure Says (x : Setting) (stands : Json → Prop) (found : Option x.Value) : Prop where
  /-- What it is set to. -/
  sets : ∀ v, (∃ value, stands value ∧ x.read value = some v) ↔ found = some v
  /-- That it is not set. -/
  unset : (∀ value, stands value → value = .null) ↔ found = none

/-- What is read of a value that may be missing is what it says. -/
theorem says_of_optional? {stands : Json → Prop} {value? : Option Json} {found : Option x.Value}
    (hstands : ∀ value, stands value ↔ value? = some value)
    (h : Json.optional? x.read value? = some found) : x.Says stands found := by
  have hnull : x.read .null = none := by cases x <;> rfl
  cases value? with
  | none =>
    cases h
    exact ⟨fun v => by simp [hstands], by simp [hstands]⟩
  | some value =>
    by_cases hvalue : value = .null
    · subst hvalue
      cases h
      exact ⟨fun v => by simp [hstands, hnull], by simp [hstands]⟩
    · have hread : (x.read value).map some = some found := by
        cases value <;> first | exact absurd rfl hvalue | exact h
      obtain ⟨v, hv, rfl⟩ := Option.map_eq_some_iff.mp hread
      exact ⟨fun w => by simp [hstands, hv], by simp [hstands, hvalue]⟩

theorem says_sigil {found : Option String} (h : Overlay.sigilOfJson? part = some found) :
    Says .sigil (Json.Under ["prefix"] "prefix" part) found := by
  obtain ⟨values, hvalues, h⟩ := Option.bind_eq_some_iff.mp h
  have hspec := Json.members?_spec (by decide) (Json.members?_of_allMembers? hvalues)
  obtain _ | ⟨hsigil, _ | _⟩ := hspec
  exact says_of_optional? hsigil h

theorem says_logging {level : Option String} {jsonLogs : Option Bool}
    (h : Overlay.loggingOfJson? part = some (level, jsonLogs)) :
    Says .level (Json.Under ["level", "json"] "level" part) level ∧
      Says .jsonLogs (Json.Under ["level", "json"] "json" part) jsonLogs := by
  obtain ⟨values, hvalues, h⟩ := Option.bind_eq_some_iff.mp h
  have hspec := Json.members?_spec (by decide) (Json.members?_of_allMembers? hvalues)
  obtain _ | ⟨hlevel, _ | ⟨hjson, _ | _⟩⟩ := hspec
  simp only [Option.bind_eq_bind, Option.bind_eq_some_iff, Option.pure_def, Option.some.injEq,
    Prod.mk.injEq] at h
  obtain ⟨level', hreadLevel, json', hreadJson, rfl, rfl⟩ := h
  exact ⟨says_of_optional? hlevel hreadLevel, says_of_optional? hjson hreadJson⟩

/-- A document says of a setting what the section does, and nothing without the section. -/
theorem says_of_section {section? : Option Json} {found : Option x.Value}
    (hsection : ∀ part, Json.Under sections x.part j part ↔ section? = some part)
    (hnone : section? = none → found = none)
    (hsome : ∀ part, section? = some part → x.Says (Json.Under x.keys x.key part) found) :
    x.Says (x.Stands j) found := by
  cases section? with
  | none =>
    rw [hnone rfl]
    exact ⟨fun v => by simp [Stands, hsection], by simp [Stands, hsection]⟩
  | some part =>
    have hstands : x.Stands j = Json.Under x.keys x.key part := by
      funext value
      simp [Stands, hsection]
    rw [hstands]
    exact hsome part rfl

/-- **What is read of a document is what it says**, setting by setting. -/
theorem says_of_ofJson? (h : Overlay.ofJson? j = some o) (x : Setting) :
    x.Says (x.Stands j) (x.pick o) := by
  obtain ⟨values, hvalues, h⟩ := Option.bind_eq_some_iff.mp h
  obtain _ | ⟨hdispatch, _ | ⟨hlogging, _ | _⟩⟩ := Json.members?_spec (by decide) hvalues
  simp only [Option.bind_eq_bind, Option.bind_eq_some_iff, Option.pure_def, Option.some.injEq,
    Prod.exists] at h
  obtain ⟨sigil, hsigil, level, json, hlog, rfl⟩ := h
  cases x with
  | sigil =>
    refine says_of_section hdispatch ?_ ?_
    · rintro rfl
      exact (Option.some.inj hsigil).symm
    · rintro part rfl
      exact says_sigil hsigil
  | level =>
    refine says_of_section hlogging ?_ ?_
    · rintro rfl
      exact (congrArg Prod.fst (Option.some.inj hlog)).symm
    · rintro part rfl
      exact (says_logging hlog).1
  | jsonLogs =>
    refine says_of_section hlogging ?_ ?_
    · rintro rfl
      exact (congrArg Prod.snd (Option.some.inj hlog)).symm
    · rintro part rfl
      exact (says_logging hlog).2

/-- **What a document sets** is what its layer sets. -/
theorem pick_eq_some_iff (h : Overlay.ofJson? j = some o) {v : x.Value} :
    x.pick o = some v ↔ x.Sets j v :=
  ((says_of_ofJson? h x).sets v).symm

theorem pick_eq_none_iff (h : Overlay.ofJson? j = some o) : x.pick o = none ↔ x.Unset j :=
  (says_of_ofJson? h x).unset.symm

end Setting

end CommandTree
