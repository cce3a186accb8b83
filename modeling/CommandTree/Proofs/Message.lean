import CommandTree.Message
import CommandTree.Proofs.Json.RoundTrip

/-!
# Messages written and read back

A message is written as an object of its style and its parts, and nothing in a part
says which of the two forms it has: that is told by its keys alone, and an object that
has the keys of both is text.  What is written never has them both, so every part comes
back in the form it had, and with it the message.

## Main results

* `Part.ofJson?_toJson` — a part comes back in its form.
* `Message.ofJson?_toJson` — a message is read back from its document.
* `Message.encode_faithful` — a message is read back from its text.
-/

namespace CommandTree

open Json

/-! ### Parts -/

theorem Json.text?_listOfTexts (texts : List String) :
    (texts.map ofText).mapM Json.text? = some texts := by
  induction texts with
  | nil => rfl
  | cons s texts ih => simp [text?_ofText, ih]

theorem Json.isWritten_listOfTexts (texts : List String) :
    (Json.array (texts.map ofText)).IsWritten := by
  refine areWritten_iff.mpr fun item hitem => ?_
  obtain ⟨s, -, rfl⟩ := List.mem_map.mp hitem
  exact isWritten_ofText s

/-- The texts of a list are not nested. -/
theorem Json.depthItems_listOfTexts (texts : List String) : depthItems (texts.map ofText) = 0 := by
  induction texts with
  | nil => rfl
  | cons s texts ih => simp [depthItems, ofText, depth, ih]

namespace Part

theorem isWritten_toJson (p : Part) : p.toJson.IsWritten := by
  cases p with
  | text s => exact isWritten_ofFields (by simp)
  | localized key arguments =>
    exact isWritten_ofFields (by simp [isWritten_listOfTexts])

theorem depth_toJson_le (p : Part) : p.toJson.depth ≤ 2 := by
  cases p with
  | text s => simp [toJson, ofFields, depth, depthFields, ofText]
  | localized key arguments =>
    simp [toJson, ofFields, depth, depthFields, depthItems_listOfTexts, ofText]

/-- **A part comes back in its form**: text is found under its key at once, and a localized part
has no such key. -/
theorem ofJson?_toJson (p : Part) : ofJson? p.toJson = some p := by
  have hsound := p.isWritten_toJson.isSound
  have hdepth : p.toJson.depth + 2 ≤ maxDepth := by
    have hle := p.depth_toJson_le
    simp only [maxDepth]
    omega
  simp only [ofJson?, hsound, hdepth, decide_true, Bool.and_self, if_true]
  cases p with
  | text s =>
    rw [toJson, fields?_ofFields]
    simp [ofTextFields?, atMostOne?, text?_ofText]
  | localized key arguments =>
    have htexts := text?_listOfTexts arguments
    rw [toJson, fields?_ofFields]
    simp [ofTextFields?, ofLocalizedFields?, atMostOne?, text?_ofText, texts?, htexts]

end Part

/-! ### Messages -/

theorem Style.ofWord?_word (style : Style) : ofWord? style.word = some style := by
  cases style <;> rfl

theorem Style.ofJson?_word (style : Style) : ofJson? (ofText style.word) = some style := by
  simp [ofJson?, ofText, unescape?_escape, style.ofWord?_word]

namespace Message

theorem isWritten_toJson (m : Message) : m.toJson.IsWritten := by
  have hparts : (Json.array (m.parts.map Part.toJson)).IsWritten := by
    refine areWritten_iff.mpr fun item hitem => ?_
    obtain ⟨p, -, rfl⟩ := List.mem_map.mp hitem
    exact p.isWritten_toJson
  exact isWritten_ofFields (by simp [hparts])

theorem listOfJson?_toJson (parts : List Part) :
    Part.listOfJson? (.array (parts.map Part.toJson)) = some parts := by
  simp only [Part.listOfJson?]
  induction parts with
  | nil => rfl
  | cons p parts ih => simp [p.ofJson?_toJson, ih]

/-- **A message is read back from its document.** -/
theorem ofJson?_toJson (m : Message) : ofJson? m.toJson = some m := by
  have hfields : m.toJson.fields? = some [("style", .ofText m.style.word),
      ("rawtext", .array (m.parts.map Part.toJson))] := fields?_ofFields _
  have hobject : ∃ fields, m.toJson = .object fields := ⟨_, rfl⟩
  obtain ⟨fields, hobject⟩ := hobject
  rw [hobject] at hfields ⊢
  simp [ofJson?, hfields, atMostOne?, m.style.ofJson?_word, listOfJson?_toJson]

/-- **A message is read back from its text**, which is the text of its document.  So different
messages have different texts, and what is read from a text and written anew is read and written
the same ever after. -/
theorem encode_faithful :
    (∀ m : Message, Json.parse? m.encode = some m.toJson ∧ decode? m.encode = some m) ∧
    Function.Injective encode ∧
    ∀ text, ((decode? text).map encode).bind (fun out => (decode? out).map encode) =
      (decode? text).map encode := by
  have hparse : ∀ m : Message, Json.parse? m.encode = some m.toJson :=
    fun m => parse?_compact m.isWritten_toJson
  have hdecode : ∀ m : Message, decode? m.encode = some m := by
    intro m
    rw [decode?, hparse, Option.bind_some, ofJson?_toJson]
  refine ⟨fun m => ⟨hparse m, hdecode m⟩, fun m m' h => ?_, fun text => ?_⟩
  · have h' := congrArg decode? h
    rw [hdecode, hdecode] at h'
    exact Option.some.inj h'
  · cases decode? text with
    | none => rfl
    | some m => simp [hdecode]

/-- A part that could be both is text, so not every text is written the way it was. -/
example :
    (decode? "\x7b\"rawtext\": [\x7b\"with\": [], \"translate\": \"k\", \"text\": \"x\"\x7d]\x7d").map
      encode = some "\x7b\"style\":\"plain\",\"rawtext\":[\x7b\"text\":\"x\"\x7d]\x7d" := by
  decide +kernel

end Message

end CommandTree
