import CommandTree.Proofs.Dispatch.Course
import CommandTree.Proofs.Token.Layout

/-!
# The words of a command

What is dispatched are the words that follow the sigil.  A player who writes words down
one after the other, with quotes where they are needed, gets just these words dispatched,
the first as the name of the command.  And whatever a player writes, nothing of it is
lost on the way but blanks and quotes, so a message is passed over only if it does not
begin with the sigil, or if nothing follows the sigil but blanks.

## Main results

* `words?_eq_none_iff` — which messages are no commands.
* `dispatch_layout` — words that are laid out are dispatched as they are.
* `tokenize_lossless` — what becomes of the characters of a message.
-/

namespace CommandTree

variable {H : Host}

namespace Dispatcher

open Token (tokenize Splits Unquotes IsQuoted Layout isPlain)

/-- A message is no command just if it does not begin with the sigil or only blanks follow it. -/
theorem words?_eq_none_iff {d : Dispatcher H} {text : String} :
    d.words? text = none ↔ ¬d.sigil.toList <+: text.toList ∨
      ∀ c ∈ text.toList.drop d.sigil.length, Text.isBlank c = true := by
  have hblank : tokenize (String.ofList (text.toList.drop d.sigil.length)) = [] ↔
      ∀ c ∈ text.toList.drop d.sigil.length, Text.isBlank c = true := by
    rw [Token.tokenize_eq_nil_iff, String.toList_ofList]
  rw [words?]
  by_cases hsigil : d.sigil.toList.isPrefixOf text.toList = true
  · have hbegins := List.isPrefixOf_iff_prefix.mp hsigil
    rw [if_pos hsigil, ← hblank]
    cases tokenize (String.ofList (text.toList.drop d.sigil.length)) with
    | nil => simp
    | cons name args => simp [hbegins]
  · have hbegins := mt List.isPrefixOf_iff_prefix.mpr hsigil
    rw [if_neg hsigil]
    exact iff_of_true rfl (.inl hbegins)

/-- A command is dispatched by its words. -/
theorem dispatch_of_words {d : Dispatcher H} {text name : String} {args : List String}
    (hw : d.words? text = some (name, args)) (who : H.Who) (s : Session H) :
    d.dispatch who text s = tell who (d.attempt who name args s) := by
  rw [dispatch, hw]
  rfl

/-- What follows the sigil is cut into words. -/
theorem words?_append (d : Dispatcher H) (text : String) :
    d.words? (d.sigil ++ text) =
      match tokenize text with
      | [] => none
      | name :: args => some (name, args) := by
  have hsigil : d.sigil.toList.isPrefixOf (d.sigil ++ text).toList = true := by
    rw [List.isPrefixOf_iff_prefix, String.toList_append]
    exact List.prefix_append _ _
  have hdrop : (d.sigil ++ text).toList.drop d.sigil.length = text.toList := by
    rw [String.toList_append, ← String.length_toList, List.drop_left]
  cases htokens : tokenize text with
  | nil => simp only [words?, hsigil, if_true, hdrop, String.ofList_toList, htokens]
  | cons name args => simp only [words?, hsigil, if_true, hdrop, String.ofList_toList, htokens]

/-- A message is passed over just if it is no command. -/
theorem outcome_eq_ignored_iff (d : Dispatcher H) (who : H.Who) (text : String) (s : Session H) :
    (d.dispatch who text s).outcome = .ignored ↔ d.words? text = none := by
  have hcourse := dispatch_course d who text s
  generalize d.dispatch who text s = x at hcourse ⊢
  cases hcourse with
  | ignored hw => simp [hw]
  | refused hw hs => simp [hw]
  | unresolved hw hs hr => simp [hw]
  | gone hw hs hr hv => simp [hw]
  | incomplete hw hs hr hv hd => simp [hw]
  | @called a ha =>
    rw [tell_outcome, ha.words]
    -- Once a handler is called the message is no longer passed over, however it ends.
    refine iff_of_false ?_ nofun
    rcases call_outcome_cases d who a.root a.node a.handler (d.values who a) (d.calling who a) with
      hx | ⟨ending, hx⟩
    · rw [hx]
      exact nofun
    · rw [hx]
      cases ending <;> exact nofun

/-- **Words that are laid out are dispatched as they are.**  A message is cut into the words laid out
in it, whatever blanks stand around them, and with the sigil before them the first is looked up as
the name of a command and the others are offered to its nodes.  If there are none nothing happens. -/
theorem dispatch_layout (l : Layout) :
    tokenize l.text = l.words ∧ ∀ (H : Host) (d : Dispatcher H) (who : H.Who) (s : Session H),
      (l.words = [] → d.dispatch who (d.sigil ++ l.text) s = ⟨.ignored, none, s⟩) ∧
      ∀ name args, l.words = name :: args →
        d.words? (d.sigil ++ l.text) = some (name, args) ∧
        d.dispatch who (d.sigil ++ l.text) s =
          tell who (match d.select who name s with
            | (.error failure, s) => ⟨.failed failure, none, s⟩
            | (.ok root, s) =>
              match d.resolve who root args s.host with
              | (.error failure, h) => ⟨.failed failure, none, { s with host := h }⟩
              | (.ok path, h) => d.follow who root path args { s with host := h }) := by
  have htext := l.tokenize_text
  refine ⟨htext, fun H d who s => ⟨fun hnil => ?_, fun name args hcons => ?_⟩⟩
  · have hw := d.words?_append l.text
    rw [htext, hnil] at hw
    rw [dispatch, hw]
  · have hw := d.words?_append l.text
    rw [htext, hcons] at hw
    exact ⟨hw, dispatch_of_words hw who s⟩

/-- Three words, of which the second is quoted and the third follows right after the quote. -/
def adjacent : Layout where
  lead := [' ']
  lead_blank := List.forall_mem_singleton.mpr rfl
  items := [⟨.bare "mark" (by decide) (by simp [Text.isBlank]), [' '],
      List.forall_mem_singleton.mpr rfl⟩,
    ⟨.quoted "ann lee" (by decide) (by simp), [], List.forall_mem_nil _⟩,
    ⟨.bare "mark" (by decide) (by simp [Text.isBlank]), [' '], List.forall_mem_singleton.mpr rfl⟩]
  apart := .cons_cons (fun _ => List.cons_ne_nil _ _) (.cons_cons nofun (.singleton _))

/-- They are dispatched as they are. -/
theorem dispatch_layout_adjacent :
    let d := markDispatcher (Host.still Unit) () fun _ _ _ s => ⟨.done, 0, s⟩
    adjacent.text = " mark \"ann lee\"mark " ∧ tokenize adjacent.text = ["mark", "ann lee", "mark"] ∧
      d.words? (d.sigil ++ adjacent.text) = some ("mark", ["ann lee", "mark"]) := by
  intro d
  obtain ⟨htokens, hdispatch⟩ := dispatch_layout adjacent
  obtain ⟨-, hcommand⟩ := hdispatch (Host.still Unit) d "bob" (.start ())
  exact ⟨by decide +kernel, htokens, (hcommand "mark" ["ann lee", "mark"] rfl).1⟩

/-- **Nothing of a message is lost but blanks and quotes.**  Every text is blanks, a piece, blanks,
and so on, with one piece for each of its words, in order; a piece is a quoted segment or a run that
ends at a blank or at the end, and its word is the piece as it is or without two of its quotes.  So
no word is empty, all other characters are still there in their order, a word with a blank in it
comes from a quoted segment, and there are no words just if there is nothing but blanks.  A message
is ignored just if it does not begin with the sigil or only blanks follow it. -/
theorem tokenize_lossless (text : String) :
    (∃ pieces, Splits text.toList pieces ∧
      List.Forall₂ (fun piece word => Unquotes piece word.toList ∧
        ((∃ c ∈ word.toList, Text.isBlank c = true) → IsQuoted piece)) pieces (tokenize text)) ∧
    (∀ word ∈ tokenize text, word ≠ "") ∧
    ((tokenize text).flatMap String.toList).filter isPlain = text.toList.filter isPlain ∧
    (tokenize text = [] ↔ ∀ c ∈ text.toList, Text.isBlank c = true) ∧
    ∀ (H : Host) (d : Dispatcher H) (who : H.Who) (s : Session H),
      (d.dispatch who text s).outcome = .ignored ↔ ¬d.sigil.toList <+: text.toList ∨
        ∀ c ∈ text.toList.drop d.sigil.length, Text.isBlank c = true := by
  have hsplits := Token.splits_pieces text.toList
  refine ⟨⟨_, hsplits, ?_⟩, fun word hword => ?_, ?_, Token.tokenize_eq_nil_iff, fun H d who s => ?_⟩
  · rw [Token.tokenize_eq, List.forall₂_map_right_iff, List.forall₂_same]
    intro piece hpiece
    have hunquotes := Token.unquotes_unquote piece
    rw [String.toList_ofList]
    refine ⟨hunquotes, fun ⟨c, hc, hblank⟩ => ?_⟩
    exact hsplits.isQuoted piece hpiece ⟨c, hunquotes.subset hc, hblank⟩
  · rw [Token.tokenize_eq] at hword
    obtain ⟨piece, hpiece, rfl⟩ := List.mem_map.mp hword
    have hne := (Token.unquotes_unquote piece).ne_nil (hsplits.ne_nil piece hpiece)
    rw [ne_eq, ← String.toList_eq_nil_iff, String.toList_ofList]
    exact hne
  · exact Token.filter_tokenize text
  · rw [outcome_eq_ignored_iff, words?_eq_none_iff]

end Dispatcher

end CommandTree
