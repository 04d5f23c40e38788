import InlineFormula.Proofs.Scanning
import Mathlib.Logic.ExistsUnique

/-!
How a text is cut up by reading it. It falls into slices, one after the other: the value of each
element as it stands in the text, and behind it a slice for each of its children. Modifiers
before the first element are cut off and dropped.
-/

set_option autoImplicit false

namespace InlineFormula

open Token (leadingModifiers modifierShape assemble AllFit)

variable {ι : Type}

/-- The text starts with the slice of a child, and `after` is left behind the slice. It is the
marker with the content in exactly one spelling that fits there. -/
def Element.SliceStarts (text after : List Char) (child : Element ι) : Prop :=
  child.children = [] ∧ ∃ marker : Marker, child.kind = marker.kind ∧
    ∃! spelling : Spelling, spelling.content = child.value.toList ∧ spelling.Fits after ∧
      text = marker.char :: (spelling.text ++ after)

def Element.SlicesStart : List (Element ι) → List Char → List Char → Prop
  | [], text, after => text = after
  | child :: rest, text, after =>
      ∃ behind, child.SliceStarts text behind ∧ SlicesStart rest behind after

/-- The text is made of the values of the elements in order, each with the slices of its
children behind it. -/
def Element.Sliced : List (Element ι) → List Char → Prop
  | [], text => text = []
  | element :: rest, text =>
      ∃ behind after, text = element.value.toList ++ behind ∧
        SlicesStart element.children behind after ∧ Sliced rest after

theorem slice_starts_shape (text after : List Char) (child : Element ι) :
    child.shape.SliceStarts text after ↔ child.SliceStarts text after := by
  obtain ⟨kind, value, children, id⟩ := child
  simp [Element.SliceStarts, Element.shape, Element.shapes_eq_map]

theorem slices_start_shapes (children : List (Element ι)) (text after : List Char) :
    Element.SlicesStart (Element.shapes children) text after ↔
      Element.SlicesStart children text after := by
  induction children generalizing text with
  | nil => rfl
  | cons child rest induction =>
      simp only [Element.shapes, Element.SlicesStart, slice_starts_shape, induction]

theorem sliced_shapes (elements : List (Element ι)) (text : List Char) :
    Element.Sliced (Element.shapes elements) text ↔ Element.Sliced elements text := by
  induction elements generalizing text with
  | nil => rfl
  | cons element rest induction =>
      obtain ⟨kind, value, children, id⟩ := element
      simp only [Element.shapes, Element.shape, Element.Sliced, slices_start_shapes, induction]

theorem modifier_slice_starts (settings : Settings) (marker : Marker) (spelling : Spelling)
    (after : List Char) (fits : (Token.modifier marker spelling).Fits settings after) :
    (modifierShape marker spelling).SliceStarts
      ((Token.modifier marker spelling).text ++ after) after := by
  cases fits with
  | modifier marker spelling active spelled =>
      refine ⟨rfl, marker, rfl, spelling, ⟨?_, spelled, rfl⟩, ?_⟩
      · simp [modifierShape]
      · intro other slice
        rcases slice with ⟨-, otherSpelled, sameText⟩
        -- Reading the slice gives each spelling that fits, so there is only one.
        have found := Spelling.read_of_fits spelling after spelled
        have otherFound := (Spelling.read_eq_iff (spelling.text ++ after) after other).mpr
          ⟨(List.cons.inj sameText).2, otherSpelled⟩
        exact congrArg Prod.fst (otherFound.symm.trans found)

/-- The modifiers at the head come off first, and the elements make up what is left. -/
theorem tokens_sliced (settings : Settings) (list : List Token) (fits : AllFit settings list) :
    ∃ body, Element.SlicesStart (leadingModifiers list) (list.flatMap Token.text) body ∧
      Element.Sliced (assemble list) body := by
  induction list with
  | nil => exact ⟨[], rfl, rfl⟩
  | cons token rest induction =>
      rcases fits with ⟨first, others⟩
      obtain ⟨body, starts, sliced⟩ := induction others
      cases token with
      | modifier marker spelling =>
          have slice := modifier_slice_starts settings marker spelling _ first
          exact ⟨body, ⟨rest.flatMap Token.text, slice, starts⟩, sliced⟩
      | atom kind value =>
          refine ⟨_, rfl, rest.flatMap Token.text, body, ?_, starts, sliced⟩
          simp [Token.text]

/-- Reading a text loses, repeats and reorders nothing: the slices of the elements make up the
text behind the dropped modifiers, and some are dropped only behind an active marker. -/
theorem Formula.parse_sliced (settings : Settings) (drawn : Nat) (text : String) :
    ∃ (dropped : List Shape) (body : List Char),
      Element.SlicesStart dropped text.toList body ∧
      (dropped ≠ [] → ∃ marker : Marker,
        text.toList.head? = some marker.char ∧ settings.active marker = true) ∧
      Element.Sliced (parseNumbered settings drawn text) body := by
  have fits := tokens_all_fit settings text.toList
  obtain ⟨body, starts, sliced⟩ := tokens_sliced settings _ fits
  rw [tokens_text] at starts
  refine ⟨_, body, starts, marker_of_leading_modifiers settings text.toList, ?_⟩
  rw [← sliced_shapes, parse_numbered_shapes, sliced_shapes]
  exact sliced

end InlineFormula
