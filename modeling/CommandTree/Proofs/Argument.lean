import CommandTree.Argument

/-!
# What arguments make of words

The types that are built in look at nothing but who is online, and a word that fits
gets a value of the kind that the argument contributes.  A type that the host adds may
do as it likes; here is what has to be asked of it so that the same can be said of
every argument.

## Main definitions

* `ArgumentType.isCustom` — the types that a host adds.
* `Host.SameAnswers` — the same players are found in two states.
* `CustomType.Pure`, `CustomType.Honest` — what is asked of the types of a host.

## Main results

* `Argument.accept_congr` — what is made of a word depends on who is found.
* `Argument.converts_of_accept` — a word that fits gets a value of the right kind.
-/

namespace CommandTree

variable {H : Host}

/-- Whether the type was added by the host. -/
def ArgumentType.isCustom (type : ArgumentType H) : Bool := type matches .custom _

theorem ArgumentType.ne_custom {type : ArgumentType H} (h : type.isCustom = false)
    (custom : CustomType H) : type ≠ .custom custom := by
  rintro rfl
  cases h

/-! ### The same answers -/

/-- In two states the same players are found under the same names. -/
def Host.SameAnswers (H : Host) (s t : H.State) : Prop :=
  ∀ name, (H.find name s).1 = (H.find name t).1

/-- What the type makes of a word depends on nothing in the state but who is found under which
name. -/
def CustomType.Pure (type : CustomType H) : Prop :=
  ∀ commands word ⦃s t⦄, H.SameAnswers s t →
    (type.accept commands word s).1 = (type.accept commands word t).1

/-- What an argument makes of a word is the same in states with the same players. -/
theorem Argument.accept_congr (a : Argument H)
    (hpure : ∀ type, a.type = .custom type → type.Pure) {s t : H.State} (h : H.SameAnswers s t)
    (commands : List String) (word : String) :
    (a.accept commands word s).1 = (a.accept commands word t).1 := by
  obtain ⟨name, type⟩ := a
  cases type with
  | player =>
    change (H.find word s).1.map Value.player = (H.find word t).1.map Value.player
    rw [h word]
  | custom type => exact hpure type rfl commands word h
  | literal => rfl
  | string => rfl
  | integer bounds => rfl
  | boolean => rfl
  | choice options => rfl
  | axis => rfl

/-! ### The kinds of values -/

/-- A word that fits gets a value of the kind that the type announces, which is not an axis still to
be resolved. -/
def CustomType.Honest (type : CustomType H) : Prop :=
  ∀ commands word s v, (type.accept commands word s).1 = some v →
    v.kind = type.kind ∧ ∀ c, v ≠ .coordinate c

/-- A value converts to its own kind and no other, an unresolved axis to none. -/
theorem Value.converts_iff {W : Type} {v : Value W} {k : ValueKind} :
    v.converts k = true ↔ v.kind = k ∧ ∀ c, v ≠ .coordinate c := by
  cases v <;> simp [converts, kind]

/-- A word that fits an argument other than an axis gets a value of the kind that the argument
contributes. -/
theorem Argument.converts_of_accept (a : Argument H)
    (hhonest : ∀ type, a.type = .custom type → type.Honest) {kind : ValueKind}
    (hkind : a.valueKind? = some kind) (haxis : a.isAxis = false) {commands : List String}
    {word : String} {s : H.State} {v : Value H.Who}
    (h : (a.accept commands word s).1 = some v) : v.converts kind = true := by
  obtain ⟨name, type⟩ := a
  rw [valueKind?] at hkind
  split at hkind
  · cases hkind
  · cases type with
    | literal => cases hkind
    | axis => cases haxis
    | custom type =>
      cases hkind
      exact Value.converts_iff.mpr (hhonest type rfl commands word s v h)
    | string => cases hkind; cases h; rfl
    | integer bounds =>
      cases hkind
      obtain ⟨n, -, rfl⟩ := Option.map_eq_some_iff.mp h
      rfl
    | boolean =>
      cases hkind
      simp only [accept] at h
      split at h
      · cases h; rfl
      · split at h
        · cases h; rfl
        · cases h
    | choice options =>
      cases hkind
      simp only [accept] at h
      split at h
      · cases h; rfl
      · cases h
    | player =>
      cases hkind
      obtain ⟨p, -, rfl⟩ := Option.map_eq_some_iff.mp h
      rfl

/-- An axis contributes a place. -/
theorem Argument.kind_of_isAxis (a : Argument H) {kind : ValueKind} (haxis : a.isAxis = true)
    (hkind : a.valueKind? = some kind) : kind = .location := by
  obtain ⟨name, type⟩ := a
  rw [valueKind?] at hkind
  split at hkind
  · cases hkind
  · cases type with
    | axis => cases hkind; rfl
    | literal => cases haxis
    | string => cases haxis
    | integer bounds => cases haxis
    | boolean => cases haxis
    | choice options => cases haxis
    | player => cases haxis
    | custom type => cases haxis

/-- The type of command names can be trusted. -/
theorem commandNameType_trustworthy (H : Host) :
    (commandNameType H).Pure ∧ (commandNameType H).Honest := by
  constructor
  · intro commands word s t _
    rfl
  · intro commands word s v h
    simp only [commandNameType] at h
    split at h
    · cases h
      exact ⟨rfl, fun c hc => by cases hc⟩
    · cases h

end CommandTree
