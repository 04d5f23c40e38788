import InlineFormula.Proofs.NormalForm

/-!
Canonical texts: those that are their own normal form. Writing never shortens a modifier, and it
keeps one as it is exactly when the modifier is spelled as writing would spell its content; so a
text without dropped modifiers is canonical or shorter than its normal form.
-/

set_option autoImplicit false

namespace InlineFormula

open Token (leadingModifiers assemble AllFit)

namespace Spelling

/-- Spellings that writing chooses: closed groups, groups left open with more braces opened than
closed in them, and a lone closing brace. -/
def IsCanonical : Spelling → Prop
  | grouped _ => True
  | unclosed content => content.count '}' < content.count '{'
  | bare char => char = '}'
  | absent => False

theorem of_content_open (content : List Char) (never : NeverOverclosed 0 content)
    (ahead : content.count '}' < content.count '{') : ofContent content = unclosed content := by
  have several : content ≠ ['}'] := by
    rintro rfl
    exact absurd ahead (by decide)
  have depth : openDepth 0 content =
      some (content.count '{' - content.count '}' - 1 + 1) :=
    (open_depth_eq_some_iff 0 _ content).mpr ⟨never, by omega⟩
  rw [ofContent, if_neg several, depth]

theorem of_content_canonical (spelling : Spelling) (after : List Char)
    (fits : spelling.Fits after) (canonical : spelling.IsCanonical) :
    ofContent spelling.content = spelling := by
  cases spelling with
  | grouped content => exact of_content_balanced content fits
  | unclosed content => exact of_content_open content fits.1 canonical
  | bare char =>
      obtain rfl : char = '}' := canonical
      rfl
  | absent => exact canonical.elim

/-- Any other spelling wants braces that are not there. -/
theorem text_length_lt_of_content (spelling : Spelling) (after : List Char)
    (fits : spelling.Fits after) (other : ¬spelling.IsCanonical) :
    spelling.text.length < (ofContent spelling.content).text.length := by
  cases spelling with
  | grouped content => exact absurd trivial other
  | unclosed content =>
      have never := fits.1
      have equal : content.count '{' = content.count '}' := by
        have whole := never content (List.prefix_refl content)
        have notAhead : ¬content.count '}' < content.count '{' := other
        omega
      change _ < (ofContent content).text.length
      rw [of_content_balanced content ⟨never, equal⟩]
      simp [text]
  | bare char =>
      have opens : char ≠ '{' := fits
      have closes : char ≠ '}' := other
      change _ < (ofContent [char]).text.length
      rw [of_content_balanced [char] (balanced_single char opens closes)]
      simp [text]
  | absent =>
      change _ < (ofContent []).text.length
      rw [of_content_balanced [] ⟨never_overclosed_nil 0, rfl⟩]
      simp [text]

end Spelling

namespace Token

/-- Only a modifier can be spelled in more than one way. -/
def IsCanonical : Token → Prop
  | atom _ _ => True
  | modifier _ spelling => spelling.IsCanonical

theorem normal_text_canonical (settings : Settings) (after : List Char) (token : Token)
    (fits : token.Fits settings after) (canonical : token.IsCanonical) :
    token.normalText = token.text := by
  cases token with
  | atom kind value => rfl
  | modifier marker spelling =>
      cases fits with
      | modifier marker spelling active spelled =>
          rw [normalText, text, Spelling.of_content_canonical spelling after spelled canonical]

theorem text_length_lt_normal_text (settings : Settings) (after : List Char) (token : Token)
    (fits : token.Fits settings after) (other : ¬token.IsCanonical) :
    token.text.length < token.normalText.length := by
  cases token with
  | atom kind value => exact absurd trivial other
  | modifier marker spelling =>
      cases fits with
      | modifier marker spelling active spelled =>
          exact Nat.succ_lt_succ (spelling.text_length_lt_of_content after spelled other)

theorem flat_map_normal_text_canonical (settings : Settings) (list : List Token)
    (fits : AllFit settings list) (canonical : ∀ token ∈ list, token.IsCanonical) :
    list.flatMap normalText = list.flatMap text := by
  induction list with
  | nil => rfl
  | cons token rest induction =>
      rw [List.forall_mem_cons] at canonical
      rw [List.flatMap_cons, List.flatMap_cons, induction fits.2 canonical.2,
        normal_text_canonical settings _ token fits.1 canonical.1]

/-- No token makes up for another: one that is not canonical makes the whole longer. -/
theorem flat_map_text_length_lt (settings : Settings) (list : List Token)
    (fits : AllFit settings list) (other : ¬∀ token ∈ list, token.IsCanonical) :
    (list.flatMap text).length < (list.flatMap normalText).length := by
  induction list with
  | nil => simp at other
  | cons token rest induction =>
      rw [List.forall_mem_cons] at other
      rw [List.flatMap_cons, List.flatMap_cons, List.length_append, List.length_append]
      by_cases canonical : token.IsCanonical
      · have later := induction fits.2 fun others => other ⟨canonical, others⟩
        rw [normal_text_canonical settings _ token fits.1 canonical]
        omega
      · have longer := text_length_lt_normal_text settings _ token fits.1 canonical
        by_cases others : ∀ token ∈ rest, token.IsCanonical
        · rw [flat_map_normal_text_canonical settings rest fits.2 others]
          omega
        · have later := induction fits.2 others
          omega

/-- An atom shows the character that it was read at, and that is no active marker. -/
theorem read_atom_head (settings : Settings) (char : Char) (rest : List Char) (kind : Kind)
    (value : List Char) (found : (read settings char rest).1 = atom kind value) :
    value.head? = some char ∧ ∀ marker, settings.classify char ≠ .marker marker := by
  rw [read] at found
  cases class_ : settings.classify char with
  | marker marker =>
      rw [class_] at found
      cases found
  | letter =>
      simp only [class_] at found
      split at found
      case h_1 name named =>
        obtain ⟨tail, spelled, -⟩ := function_at_letter settings char rest name class_ named
        cases found
        simp [spelled]
      case h_2 =>
        cases found
        simp
  | numeric | operator | bracket | symbol =>
      simp only [class_] at found
      cases found
      simp

end Token

namespace Formula

/-- What is written for a text that was read never begins with an active marker. -/
theorem written_head_unmarked (settings : Settings) (text : List Char) (marker : Marker)
    (head : (writeChars (parseChars settings text)).head? = some marker.char) :
    settings.active marker = false := by
  rw [parseChars] at head
  fun_induction tokens settings text with
  | case1 => cases head
  | case2 char rest step induction =>
      cases token : step.1 with
      | modifier other spelling =>
          rw [token] at head
          exact induction head
      | atom kind value =>
          obtain ⟨first, unmarked⟩ := Token.read_atom_head settings char rest kind value token
          rw [token, assemble, write_chars_cons, String.toList_ofList, List.head?_append,
            first] at head
          obtain rfl : char = marker.char := Option.some.inj head
          apply Bool.eq_false_iff.mpr
          intro active
          exact unmarked marker ((classify_marker_iff settings _ marker).mpr ⟨rfl, active⟩)

/-- A text is its own normal form exactly when no modifier is dropped from its start and each of
its modifiers is spelled as writing would spell it; if only the latter fails, its normal form is
longer. -/
theorem normalize_eq_self_iff (settings : Settings) (text : String) :
    let marked := ∃ marker : Marker, text.toList.head? = some marker.char ∧
      settings.active marker = true
    let canonical := ∀ token ∈ tokens settings text.toList, token.IsCanonical
    (normalize settings text = text ↔ ¬marked ∧ canonical) ∧
      (¬marked → ¬canonical → text.length < (normalize settings text).length) := by
  intro marked canonical
  have fits := tokens_all_fit settings text.toList
  have tokenwise : ¬marked → (normalize settings text).toList =
      (tokens settings text.toList).flatMap Token.normalText := by
    intro unmarked
    apply normalize_unmarked
    intro marker head
    exact Bool.eq_false_iff.mpr fun active => unmarked ⟨marker, head, active⟩
  have longer : ¬marked → ¬canonical → text.length < (normalize settings text).length := by
    intro unmarked other
    have grown := Token.flat_map_text_length_lt settings _ fits other
    rwa [tokens_text, ← tokenwise unmarked, String.length_toList, String.length_toList] at grown
  refine ⟨⟨?_, ?_⟩, longer⟩
  · intro same
    have unmarked : ¬marked := by
      rintro ⟨marker, head, active⟩
      -- The text is what was written for it, and nothing that is written begins so.
      rw [← same, normalize, write, String.toList_ofList] at head
      rw [written_head_unmarked settings text.toList marker head] at active
      cases active
    refine ⟨unmarked, Classical.byContradiction fun other => ?_⟩
    have grown := longer unmarked other
    rw [same] at grown
    exact absurd grown (Nat.lt_irrefl _)
  · intro both
    rw [← String.toList_inj, tokenwise both.1,
      Token.flat_map_normal_text_canonical settings _ fits both.2, tokens_text]

end Formula

end InlineFormula
