import InlineFormula.Proofs.RoundTrip

/-!
Normal forms. A text and its normal form are read alike, so two texts are read alike exactly when
they have one normal form, and a normal form is its own.
-/

set_option autoImplicit false

namespace InlineFormula

open Token (leadingModifiers modifierShape assemble)

def Token.normalText : Token → List Char
  | atom _ value => value
  | modifier marker spelling => marker.char :: (Spelling.ofContent spelling.content).text

theorem modifier_shape_text (marker : Marker) (spelling : Spelling) :
    (modifierShape marker spelling).modifierText = (Token.modifier marker spelling).normalText := by
  have named : Marker.ofKind? marker.kind = some marker := Marker.of_kind_eq_some.mpr rfl
  simp [modifierShape, Element.modifierText, Token.normalText, named]

theorem write_assembled (list : List Token) :
    (leadingModifiers list).flatMap Element.modifierText ++ Formula.writeChars (assemble list) =
      list.flatMap Token.normalText := by
  induction list with
  | nil => rfl
  | cons token rest induction =>
      cases token with
      | modifier marker spelling =>
          rw [leadingModifiers, assemble, List.flatMap_cons, List.append_assoc, induction,
            modifier_shape_text, List.flatMap_cons]
      | atom kind value =>
          change Formula.writeChars (⟨kind, String.ofList value, leadingModifiers rest, ()⟩ ::
            assemble rest) = _
          rw [Formula.write_chars_cons, induction, String.toList_ofList]
          rfl

namespace Formula

/-- The normal form is made token by token when no modifier is dropped. -/
theorem normalize_unmarked (settings : Settings) (text : String)
    (unmarked : ∀ marker : Marker, text.toList.head? = some marker.char →
      settings.active marker = false) :
    (normalize settings text).toList =
      (tokens settings text.toList).flatMap Token.normalText := by
  have kept := leading_modifiers_unmarked settings text.toList unmarked
  rw [← write_assembled, kept, normalize, write, String.toList_ofList]
  rfl

theorem parse_normalize (settings : Settings) (words : settings.NamesAreWords) (text : String) :
    parse settings (normalize settings text) = parse settings text := by
  have wellFormed := parse_well_formed settings words text
  rw [normalize, parse_write_of_well_formed settings words _ wellFormed, Element.shapes_self]

theorem write_parse_numbered (settings : Settings) (drawn : Nat) (text : String) :
    write (parseNumbered settings drawn text) = normalize settings text := by
  rw [← write_shapes, parse_numbered_shapes, Element.shapes_self, normalize]

/-- Reading what was written for a text gives the elements of the text, and texts are read alike
exactly when their normal forms are one; the normal form is reached in one step. -/
theorem same_parse_iff_normalize_eq (settings : Settings) (words : settings.NamesAreWords) :
    (∀ (drawn again : Nat) (text : String),
      Element.allSame
        (parseNumbered settings again (write (parseNumbered settings drawn text)))
        (parseNumbered settings drawn text) = true) ∧
    (∀ (drawn again : Nat) (left right : String),
      Element.allSame (parseNumbered settings drawn left)
          (parseNumbered settings again right) = true ↔
        normalize settings left = normalize settings right) ∧
    ∀ text : String, normalize settings (normalize settings text) = normalize settings text := by
  have readAlike : ∀ (drawn again : Nat) (left right : String),
      Element.allSame (parseNumbered settings drawn left)
          (parseNumbered settings again right) = true ↔
        parse settings left = parse settings right := by
    intro drawn again left right
    rw [same_parse_iff, parse_numbered_shapes, Element.shapes_self]
  refine ⟨?_, ?_, ?_⟩
  · intro drawn again text
    rw [readAlike, write_parse_numbered, parse_normalize settings words]
  · intro drawn again left right
    rw [readAlike]
    constructor
    · intro same
      rw [normalize, normalize, same]
    · intro same
      rw [← parse_normalize settings words left, same, parse_normalize settings words right]
  · intro text
    rw [normalize, parse_normalize settings words, normalize]

theorem same_parse_iff_normalize_eq_unclosed :
    ({} : Settings).NamesAreWords ∧
      Element.allSame (parseNumbered {} 9 (write (parseNumbered {} 0 "^2x_\x7da^\x7bb\x7bc")))
        (parseNumbered {} 0 "^2x_\x7da^\x7bb\x7bc") = true ∧
      (Element.allSame (parseNumbered {} 0 "x^2") (parseNumbered {} 4 "x^\x7b2") = true ↔
        normalize {} "x^2" = normalize {} "x^\x7b2") ∧
      normalize {} (normalize {} "x_") = normalize {} "x_" := by
  have law := same_parse_iff_normalize_eq {} names_are_words_standard
  exact ⟨names_are_words_standard, law.1 0 9 _, law.2.1 0 4 _ _, law.2.2 _⟩

end Formula

end InlineFormula
