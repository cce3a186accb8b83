import CommandTree.Proofs.Blank
import CommandTree.Shell

/-!
# What a line says

A line is read without the blanks around it.  If nothing is left of it, it says nothing.
If it begins with an at sign, a name comes next, up to the first blank or the end, and
what comes after the blanks is for the player of this name to say.  All else is chat.
Here this is put down as a grammar that does not tell how to cut a line up.  Every line
can be read in one way only, and this is how the shell takes it.

## Main definitions

* `Said`, `Says` — what a line says.
* `Shell.said` — what the shell takes a line to say.

## Main results

* `Says.said_eq` — **the shell takes a line to say what it says**.
* `existsUnique_content` — a line says one thing.
-/

namespace CommandTree

open Text

/-- What a line says. -/
inductive Said where
  /-- Nothing. -/
  | nothing
  /-- Another player is to act, and to chat if there is a text. -/
  | address (name text : String)
  /-- The acting player chats. -/
  | chat (text : String)

/-- The line says this. -/
inductive Says (line : String) : Said → Prop
  /-- There are no more than blanks. -/
  | nothing (hline : Padded line.toList []) : Says line .nothing
  /-- An at sign and a name without blanks, and then maybe a text with blanks before it. -/
  | address {name text : String} {gap : List Char}
    (hline : Padded line.toList ('@' :: (name.toList ++ (gap ++ text.toList))))
    (hname : ∀ c ∈ name.toList, isBlank c = false) (hgap : ∀ c ∈ gap, isBlank c = true)
    (htext : ∀ c ∈ text.toList.head?, isBlank c = false) (hapart : gap = [] → text = "") :
    Says line (.address name text)
  /-- Any other text. -/
  | chat {text : String} (hline : Padded line.toList text.toList) (hne : text ≠ "")
    (hmark : '@' ∉ text.toList.head?) : Says line (.chat text)

/-- What the shell takes a line to say. -/
def Shell.said (line : String) : Said :=
  match (trim line).toList with
  | [] => .nothing
  | c :: rest =>
    if c = '@' then .address (addressee rest).1 (addressee rest).2 else .chat (trim line)

section Readings

variable {line : String}

/-- A name ends before the first blank, and the text after it is taken without blanks around it. -/
theorem addressee_eq {name text gap : List Char} (hname : ∀ c ∈ name, isBlank c = false)
    (hgap : ∀ c ∈ gap, isBlank c = true) (hapart : gap = [] → text = [])
    (hfirst : ∀ c ∈ text.head?, isBlank c = false)
    (hlast : ∀ c ∈ text.getLast?, isBlank c = false) :
    Shell.addressee (name ++ (gap ++ text)) = (String.ofList name, String.ofList text) := by
  have hkept : ∀ c ∈ name, (!isBlank c) = true := fun c hc => by rw [hname c hc]; rfl
  simp only [Shell.addressee, splitAtBlank, String.toList_ofList,
    List.takeWhile_append_of_pos hkept, List.dropWhile_append_of_pos hkept]
  cases gap with
  | nil =>
    rw [hapart rfl, List.nil_append, List.takeWhile_nil, List.append_nil]
    rfl
  | cons b gap =>
    have hblank : isBlank b = true := hgap b List.mem_cons_self
    have htail : Padded (gap ++ text) text :=
      ⟨⟨gap, [], (List.append_nil _).symm, fun c hc => hgap c (List.mem_cons_of_mem b hc), nofun⟩,
        hfirst, hlast⟩
    simp [hblank, trim, padded_iff.mp htail]

/-- **The shell takes a line to say what it says.** -/
theorem Says.said_eq {content : Said} (h : Says line content) : Shell.said line = content := by
  cases h with
  | nothing hline => rw [Shell.said, toList_trim, padded_iff.mp hline]
  | @address name text gap hline hname hgap htext hapart =>
    have hlast : ∀ c ∈ text.toList.getLast?, isBlank c = false := by
      intro c hc
      refine hline.last c ?_
      rw [List.getLast?_cons, List.getLast?_append, List.getLast?_append, Option.mem_def.mp hc]
      rfl
    rw [Shell.said, toList_trim, padded_iff.mp hline]
    simp only [if_true, addressee_eq hname hgap
      (fun hnone => by rw [hapart hnone]; rfl) htext hlast, String.ofList_toList]
  | @chat text hline hne hmark =>
    have htrim : trim line = text := by rw [trim, padded_iff.mp hline, String.ofList_toList]
    rw [Shell.said, htrim]
    cases htext : text.toList with
    | nil => exact absurd (String.toList_eq_nil_iff.mp htext) hne
    | cons c rest =>
      have hc : c ≠ '@' := fun hc => hmark (by rw [htext, hc]; rfl)
      simp only [hc, if_false]

/-- A blank right after the sign leaves the name empty. -/
example : Shell.said "\t@ Ann  says " = .address "" "Ann  says" := by rfl

theorem exists_content (line : String) : ∃ content, Says line content := by
  have hline := padded_trim line
  cases hcs : (trim line).toList with
  | nil => exact ⟨.nothing, .nothing (hcs ▸ hline)⟩
  | cons c rest =>
    by_cases hc : c = '@'
    · -- The name goes up to the first blank, and the text begins where the blanks end.
      let tail := rest.dropWhile (!isBlank ·)
      have hrest : rest.takeWhile (!isBlank ·) ++ (tail.takeWhile isBlank ++ trimStart tail) =
          rest := by
        rw [trimStart, List.takeWhile_append_dropWhile, List.takeWhile_append_dropWhile]
      have hcut : Padded line.toList
          ('@' :: ((String.ofList (rest.takeWhile (!isBlank ·))).toList ++
            (tail.takeWhile isBlank ++ (String.ofList (trimStart tail)).toList))) := by
        rwa [String.toList_ofList, String.toList_ofList, hrest, ← hc, ← hcs]
      refine ⟨_, .address hcut ?_ (fun c hc => List.mem_takeWhile_imp hc) ?_ fun hgap => ?_⟩
      · intro c hc
        rw [String.toList_ofList] at hc
        simpa using List.mem_takeWhile_imp hc
      · rw [String.toList_ofList]
        exact head?_trimStart tail
      · have hstop := List.head?_dropWhile_not (!isBlank ·) rest
        cases htail : tail with
        | nil => rfl
        | cons b others =>
          rw [show rest.dropWhile (!isBlank ·) = b :: others from htail] at hstop
          rw [htail, List.takeWhile_cons_of_pos (by simpa using hstop)] at hgap
          cases hgap
    · refine ⟨.chat (trim line), .chat hline ?_ ?_⟩
      · intro hempty
        rw [hempty] at hcs
        cases hcs
      · rw [hcs]
        simpa using fun h => hc h

/-- A line says one thing. -/
theorem existsUnique_content (line : String) : ∃! content, Says line content := by
  obtain ⟨content, hcontent⟩ := exists_content line
  exact ⟨content, hcontent, fun other hother => hother.said_eq.symm.trans hcontent.said_eq⟩

theorem ne_empty_of_said {text : String} (h : Shell.said line = .chat text) : text ≠ "" := by
  obtain ⟨content, hcontent⟩ := exists_content line
  obtain rfl : content = .chat text := hcontent.said_eq.symm.trans h
  cases hcontent with
  | chat _ hne _ => exact hne

end Readings

end CommandTree
