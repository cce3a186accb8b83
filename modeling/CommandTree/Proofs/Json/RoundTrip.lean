import CommandTree.Json.Reader
import CommandTree.Proofs.Json.Escape

/-!
# Documents written and read back

A document that was put together from texts is written without blanks, and reading
the writing gives the document.  Both halves of the reader are followed through the
document: its text is cut into the tokens that one expects, and the tokens lead the
machine from a place where a value is due to the place after just that value,
whatever is still open around it.

## Main definitions

* `Json.IsWritten` — documents whose strings and keys are texts as they are written.
* `Json.tokens` — the tokens of a document.

## Main results

* `scan?_render` — the text of a document is cut into its tokens.
* `steps?_tokens` — its tokens lead to the place after it.
* `parse?_compact` — a written document is read back.
* `IsWritten.isSound` — all of it stands for texts.
-/

namespace CommandTree.Json

/-! ### Documents put together from texts -/

mutual

/-- Every string and key is a text as it is written, and no number occurs. -/
def IsWritten : Json → Prop
  | .number _ => False
  | .string lexeme => ∃ cs, lexeme = escape cs
  | .array items => AreWritten items
  | .object fields => AreWrittenFields fields
  | _ => True

/-- All items are written. -/
def AreWritten : List Json → Prop
  | [] => True
  | item :: items => item.IsWritten ∧ AreWritten items

/-- All fields are written. -/
def AreWrittenFields : List (List Char × Json) → Prop
  | [] => True
  | (key, value) :: fields =>
    (∃ cs, key = escape cs) ∧ value.IsWritten ∧ AreWrittenFields fields

end

theorem areWritten_iff {items : List Json} : AreWritten items ↔ ∀ item ∈ items, item.IsWritten := by
  induction items with
  | nil => simp [AreWritten]
  | cons item items ih => simp [AreWritten, ih]

@[simp] theorem isWritten_ofText (s : String) : (ofText s).IsWritten := ⟨s.toList, rfl⟩

/-- An object is written if its values are. -/
theorem isWritten_ofFields {fields : List (String × Json)} (h : ∀ f ∈ fields, f.2.IsWritten) :
    (ofFields fields).IsWritten := by
  have hfields : AreWrittenFields (fields.map fun f => (escape f.1.toList, f.2)) := by
    induction fields with
    | nil => trivial
    | cons f fields ih =>
      exact ⟨⟨_, rfl⟩, h f List.mem_cons_self, ih fun g hg => h g (List.mem_cons_of_mem f hg)⟩
  exact hfields

/-! ### Tokens -/

mutual

/-- The tokens of a document. -/
def tokens : Json → List Token
  | .null => [.null]
  | .bool b => [.bool b]
  | .number lexeme => [.number lexeme]
  | .string lexeme => [.string lexeme]
  | .array items => .openArray :: tokensOfItems items ++ [.closeArray]
  | .object fields => .openObject :: tokensOfFields fields ++ [.closeObject]

/-- The tokens of the items of an array. -/
def tokensOfItems : List Json → List Token
  | [] => []
  | [item] => tokens item
  | item :: items => tokens item ++ .comma :: tokensOfItems items

/-- The tokens of the fields of an object. -/
def tokensOfFields : List (List Char × Json) → List Token
  | [] => []
  | [(key, value)] => .string key :: .colon :: tokens value
  | (key, value) :: fields =>
    .string key :: .colon :: tokens value ++ .comma :: tokensOfFields fields

end

/-! ### Cutting a text into tokens -/

/-- The text before `rest` is no word that goes on in it. -/
def Ends (rest : List Char) : Prop := ∀ c ∈ rest.head?, c.isLower = false

theorem scan?_front {c : Char} {cs after : List Char} {token : Token} (hgap : isGap c = false)
    (h : front? c cs = some (token, after)) :
    scan? (c :: cs) = (scan? after).map (token :: ·) := by
  rw [scan?, hgap]
  simp only [Bool.false_eq_true, if_false]
  split
  · next hnone => simp [hnone] at h
  · next token' after' hsome =>
    rw [h] at hsome
    simp only [Option.some.injEq, Prod.mk.injEq] at hsome
    rw [hsome.1, hsome.2]

theorem scan?_punctuation (c : Char) {token : Token} (h : punctuation? c = some token)
    (rest : List Char) : scan? (c :: rest) = (scan? rest).map (token :: ·) := by
  have hgap : isGap c = false := by
    unfold punctuation? at h
    split at h <;> first | rfl | cases h
  exact scan?_front hgap (by simp [front?, h])

theorem scan?_string (cs rest : List Char) :
    scan? ('"' :: (escape cs ++ '"' :: rest)) =
      (scan? rest).map (.string (escape cs) :: ·) :=
  scan?_front rfl (by simp [front?, punctuation?, stringBody?_escape])

/-- A word of small letters ends where no small letter follows. -/
theorem scan?_word {c : Char} {cs rest : List Char} {token : Token}
    (hletters : (c :: cs).all Char.isLower = true) (hpunct : punctuation? c = none)
    (hgap : isGap c = false) (hquote : c ≠ '"') (hword : word? (c :: cs) = some token)
    (hrest : Ends rest) : scan? (c :: (cs ++ rest)) = (scan? rest).map (token :: ·) := by
  refine scan?_front hgap ?_
  have hlower : ∀ x ∈ c :: cs, x.isLower = true := List.all_eq_true.mp hletters
  have hc : c.isLower = true := hlower c List.mem_cons_self
  have hcs : ∀ x ∈ cs, x.isLower = true := fun x hx => hlower x (List.mem_cons_of_mem c hx)
  have htake : rest.takeWhile Char.isLower = [] := by
    cases rest with
    | nil => rfl
    | cons x rest => simp [hrest x rfl]
  have hdrop : rest.dropWhile Char.isLower = rest := by
    cases rest with
    | nil => rfl
    | cons x rest => simp [hrest x rfl]
  simp [front?, hpunct, hquote, hc, List.takeWhile_append_of_pos hcs,
    List.dropWhile_append_of_pos hcs, htake, hdrop, hword]

theorem ends_cons (c : Char) (h : c.isLower = false) (rest : List Char) : Ends (c :: rest) := by
  intro x hx
  simp only [List.head?_cons, Option.mem_some_iff] at hx
  exact hx ▸ h

-- What follows the text of a part is arbitrary, but for that it must end the part: so the
-- statements go through for parts that stand inside of others.
mutual

/-- **The text of a written document is cut into its tokens.** -/
theorem scan?_render : ∀ {j : Json}, j.IsWritten → ∀ {rest : List Char}, Ends rest →
    scan? (j.render ++ rest) = (scan? rest).map (j.tokens ++ ·)
  | .null, _, rest, hrest => by
    exact scan?_word (by decide) rfl rfl (by decide) rfl hrest
  | .bool true, _, rest, hrest => by
    exact scan?_word (by decide) rfl rfl (by decide) rfl hrest
  | .bool false, _, rest, hrest => by
    exact scan?_word (by decide) rfl rfl (by decide) rfl hrest
  | .string lexeme, h, rest, _ => by
    obtain ⟨cs, rfl⟩ := h
    simp only [render, tokens, List.cons_append, List.append_assoc, List.nil_append]
    exact scan?_string cs rest
  | .array items, h, rest, _ => by
    have hwritten : AreWritten items := h
    have hitems := scan?_renderItems hwritten (ends_cons ']' rfl rest)
    have hclose := scan?_punctuation ']' rfl rest
    simp only [render, tokens, List.cons_append, List.append_assoc, List.nil_append]
    rw [scan?_punctuation '[' rfl, hitems, hclose, Option.map_map, Option.map_map]
    rfl
  | .object fields, h, rest, _ => by
    have hwritten : AreWrittenFields fields := h
    have hfields := scan?_renderFields hwritten (ends_cons '\x7d' rfl rest)
    have hclose := scan?_punctuation '\x7d' rfl rest
    simp only [render, tokens, List.cons_append, List.append_assoc, List.nil_append]
    rw [scan?_punctuation '\x7b' rfl, hfields, hclose, Option.map_map, Option.map_map]
    rfl

theorem scan?_renderItems : ∀ {items : List Json}, AreWritten items → ∀ {rest : List Char},
    Ends rest → scan? (renderItems items ++ rest) = (scan? rest).map (tokensOfItems items ++ ·)
  | [], _, rest, _ => by simp [renderItems, tokensOfItems]
  | [item], h, rest, hrest => scan?_render h.1 hrest
  | item :: next :: items, h, rest, hrest => by
    have hitems := scan?_renderItems h.2 hrest
    have hitem := scan?_render h.1
      (ends_cons ',' rfl (renderItems (next :: items) ++ rest))
    simp only [renderItems, tokensOfItems, List.append_assoc, List.cons_append]
    rw [hitem, scan?_punctuation ',' rfl, hitems, Option.map_map, Option.map_map]
    rfl

theorem scan?_renderFields : ∀ {fields : List (List Char × Json)}, AreWrittenFields fields →
    ∀ {rest : List Char}, Ends rest →
    scan? (renderFields fields ++ rest) = (scan? rest).map (tokensOfFields fields ++ ·)
  | [], _, rest, _ => by simp [renderFields, tokensOfFields]
  | [(key, value)], h, rest, hrest => by
    obtain ⟨⟨cs, rfl⟩, hvalue, -⟩ := h
    simp only [renderFields, tokensOfFields, List.append_assoc, List.cons_append]
    rw [scan?_string, scan?_punctuation ':' rfl, scan?_render hvalue hrest,
      Option.map_map, Option.map_map]
    rfl
  | (key, value) :: next :: fields, h, rest, hrest => by
    obtain ⟨⟨cs, rfl⟩, hvalue, hnext⟩ := h
    have hfields := scan?_renderFields hnext hrest
    have hvalue := scan?_render hvalue
      (ends_cons ',' rfl (renderFields (next :: fields) ++ rest))
    simp only [renderFields, tokensOfFields, List.append_assoc, List.cons_append]
    rw [scan?_string, scan?_punctuation ':' rfl, hvalue,
      scan?_punctuation ',' rfl, hfields]
    simp only [Option.map_map]
    rfl

end

/-! ### The place after a document -/

mutual

/-- **The tokens of a document lead to the place after it**, whatever is open around it. -/
theorem steps?_tokens : ∀ (j : Json) (frames : List Frame) (mayClose : Bool) (rest : List Token),
    steps? (.value frames mayClose) (j.tokens ++ rest) = steps? (.after frames j) rest
  | .null, _, _, _ => rfl
  | .bool _, _, _, _ => rfl
  | .number _, _, _, _ => rfl
  | .string _, _, _, _ => rfl
  | .array [], _, _, _ => rfl
  | .array (item :: items), frames, _, rest => by
    have h := steps?_tokensOfItems (item :: items) [] frames true rest (List.cons_ne_nil _ _)
    simpa [tokens, steps?, step?] using h
  | .object [], _, _, _ => rfl
  | .object (field :: fields), frames, _, rest => by
    have h := steps?_tokensOfFields (field :: fields) [] frames true rest (List.cons_ne_nil _ _)
    simpa [tokens, steps?, step?] using h

theorem steps?_tokensOfItems : ∀ (items before : List Json) (frames : List Frame)
    (mayClose : Bool) (rest : List Token), items ≠ [] →
    steps? (.value (.array before :: frames) mayClose)
        (tokensOfItems items ++ .closeArray :: rest) =
      steps? (.after frames (.array (before.reverse ++ items))) rest
  | [], _, _, _, _, h => absurd rfl h
  | [item], before, frames, mayClose, rest, _ => by
    simp only [tokensOfItems]
    rw [steps?_tokens item]
    simp [steps?, step?]
  | item :: next :: items, before, frames, mayClose, rest, _ => by
    have h := steps?_tokensOfItems (next :: items) (item :: before) frames false rest
      (List.cons_ne_nil _ _)
    simp only [tokensOfItems, List.append_assoc, List.cons_append]
    rw [steps?_tokens item]
    simpa [steps?, step?] using h

theorem steps?_tokensOfFields : ∀ (fields before : List (List Char × Json)) (frames : List Frame)
    (mayClose : Bool) (rest : List Token), fields ≠ [] →
    steps? (.key frames before mayClose) (tokensOfFields fields ++ .closeObject :: rest) =
      steps? (.after frames (.object (before.reverse ++ fields))) rest
  | [], _, _, _, _, h => absurd rfl h
  | [(key, value)], before, frames, mayClose, rest, _ => by
    simp only [tokensOfFields, List.cons_append, steps?, step?]
    rw [steps?_tokens value]
    simp [steps?, step?]
  | (key, value) :: next :: fields, before, frames, mayClose, rest, _ => by
    have h := steps?_tokensOfFields (next :: fields) ((key, value) :: before) frames false rest
      (List.cons_ne_nil _ _)
    simp only [tokensOfFields, List.append_assoc, List.cons_append, steps?, step?]
    rw [steps?_tokens value]
    simpa [steps?, step?] using h

end

/-- **A written document is read back from its text.** -/
theorem parse?_compact {j : Json} (h : j.IsWritten) : parse? j.compact = some j := by
  have hscan : scan? j.render = some j.tokens := by
    have hend : Ends [] := nofun
    simpa [scan?] using scan?_render h hend
  have hsteps : steps? (.value [] false) j.tokens = some (.after [] j) := by
    simpa [steps?] using steps?_tokens j [] false []
  simp [parse?, compact, hscan, ofTokens?, hsteps]

/-! ### What is read stands for texts -/

theorem text?_ofText (s : String) : (ofText s).text? = some s := by
  simp [ofText, text?, unescape?_escape]

/-- The fields of an object are found again under their keys. -/
theorem fields?_ofFields (fields : List (String × Json)) :
    (ofFields fields).fields? = some fields := by
  simp only [ofFields, fields?]
  induction fields with
  | nil => rfl
  | cons f fields ih =>
    rw [List.map_cons, List.mapM_cons, ih]
    simp [unescape?_escape]

mutual

/-- **All of a written document stands for texts.** -/
theorem IsWritten.isSound : ∀ {j : Json}, j.IsWritten → j.isSound = true
  | .null, _ => rfl
  | .bool _, _ => rfl
  | .string _, ⟨cs, h⟩ => by simp [Json.isSound, h, unescape?_escape]
  | .array _, h => AreWritten.areSound h
  | .object _, h => AreWrittenFields.areSoundFields h

theorem AreWritten.areSound : ∀ {items : List Json}, AreWritten items → areSound items = true
  | [], _ => rfl
  | item :: items, h => by simp [Json.areSound, h.1.isSound, h.2.areSound]

theorem AreWrittenFields.areSoundFields : ∀ {fields : List (List Char × Json)},
    AreWrittenFields fields → areSoundFields fields = true
  | [], _ => rfl
  | (_, _) :: _, ⟨⟨cs, hkey⟩, hvalue, hrest⟩ => by
    simp [Json.areSoundFields, hkey, unescape?_escape, hvalue.isSound, hrest.areSoundFields]

end

end CommandTree.Json
