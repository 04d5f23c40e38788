import InlineFormula.Formula.Parse

/-!
Writing a formula. An element is written as its value with its superscripts and subscripts
behind it, each in the spelling chosen for its content; children of other kinds are not written.
The normal form of a text is what is written for the elements read from it.
-/

set_option autoImplicit false

namespace InlineFormula

namespace Element

variable {ι : Type}

/-- The text of a child behind the element that it decorates. -/
def modifierText (child : Element ι) : List Char :=
  match Marker.ofKind? child.kind with
  | some marker => marker.char :: (Spelling.ofContent child.value.toList).text
  | none => []

def text (element : Element ι) : List Char :=
  element.value.toList ++ element.children.flatMap modifierText

end Element

namespace Formula

variable {ι : Type}

def writeChars (elements : List (Element ι)) : List Char := elements.flatMap Element.text

def write (elements : List (Element ι)) : String := String.ofList (writeChars elements)

/-- The plain text of a formula is that of its elements without what decorates them. -/
def plainText (elements : List (Element ι)) : String :=
  String.join (elements.map Element.value)

def normalize (settings : Settings) (text : String) : String := write (parse settings text)

theorem write_append (front back : List (Element ι)) :
    write (front ++ back) = write front ++ write back := by
  simp [write, writeChars]

theorem modifier_text_shape (child : Element ι) :
    child.shape.modifierText = child.modifierText := by
  cases child
  rfl

theorem element_text_shape (element : Element ι) : element.shape.text = element.text := by
  obtain ⟨kind, value, children, id⟩ := element
  simp only [Element.shape, Element.text, Element.shapes_eq_map, List.flatMap_map,
    modifier_text_shape]

/-- What is written does not depend on identifiers. -/
theorem write_shapes (elements : List (Element ι)) :
    write (Element.shapes elements) = write elements := by
  simp only [write, writeChars, Element.shapes_eq_map, List.flatMap_map, element_text_shape]

end Formula

end InlineFormula
