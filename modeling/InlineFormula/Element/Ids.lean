import InlineFormula.Element

/-!
Identifiers. They are drawn from a counter that only grows, so no two draws give one identifier.
Reading numbers a tree in reading order, copying in building order; both use up exactly as many
numbers as the tree has elements.
-/

set_option autoImplicit false

namespace InlineFormula

abbrev Id := String

/-- The identifier of the draw with this number; draws count from one. -/
def Id.ofNat (number : Nat) : Id := "fe-" ++ toString number

/-- Draws the next identifier, the state being the number of those drawn. -/
def Id.next : StateM Nat Id := fun drawn => (Id.ofNat (drawn + 1), drawn + 1)

namespace Element

variable {ι : Type}

mutual
/-- With `drawn` numbers used up, an element takes the next one and its children those after. -/
def numbered (drawn : Nat) : Element ι → Element Id
  | ⟨kind, value, children, _⟩ =>
      ⟨kind, value, allNumbered (drawn + 1) children, Id.ofNat (drawn + 1)⟩

def allNumbered (drawn : Nat) : List (Element ι) → List (Element Id)
  | [] => []
  | element :: rest => element.numbered drawn :: allNumbered (drawn + element.size) rest
end

mutual
/-- A copy has fresh identifiers throughout: those of the children first, its own last. -/
def copied (drawn : Nat) : Element ι → Element Id
  | ⟨kind, value, children, _⟩ =>
      ⟨kind, value, allCopied drawn children, Id.ofNat (drawn + totalSize children + 1)⟩

def allCopied (drawn : Nat) : List (Element ι) → List (Element Id)
  | [] => []
  | element :: rest => element.copied drawn :: allCopied (drawn + element.size) rest
end

mutual
/-- A copy is made of copies of the children, and draws its own identifier last. -/
def copying : Element ι → StateM Nat (Element Id)
  | ⟨kind, value, children, _⟩ => do
      let copies ← copyingAll children
      let id ← Id.next
      return ⟨kind, value, copies, id⟩

def copyingAll : List (Element ι) → StateM Nat (List (Element Id))
  | [] => return []
  | element :: rest => do
      let copy ← element.copying
      let copies ← copyingAll rest
      return copy :: copies
end

/-- The element with further modifiers behind those that it has. -/
def decorated (element : Element ι) (modifiers : List (Element ι)) : Element ι :=
  { element with children := element.children ++ modifiers }

mutual
theorem numbered_shape : (drawn : Nat) → (element : Element ι) →
    (element.numbered drawn).shape = element.shape
  | drawn, ⟨_, _, children, _⟩ => by
      simp [numbered, shape, all_numbered_shapes (drawn + 1) children]

theorem all_numbered_shapes : (drawn : Nat) → (elements : List (Element ι)) →
    shapes (allNumbered drawn elements) = shapes elements
  | _, [] => rfl
  | drawn, element :: rest => by
      simp [allNumbered, shapes, numbered_shape drawn element,
        all_numbered_shapes (drawn + element.size) rest]
end

mutual
theorem copied_shape : (drawn : Nat) → (element : Element ι) →
    (element.copied drawn).shape = element.shape
  | drawn, ⟨_, _, children, _⟩ => by
      simp [copied, shape, all_copied_shapes drawn children]

theorem all_copied_shapes : (drawn : Nat) → (elements : List (Element ι)) →
    shapes (allCopied drawn elements) = shapes elements
  | _, [] => rfl
  | drawn, element :: rest => by
      simp [allCopied, shapes, copied_shape drawn element,
        all_copied_shapes (drawn + element.size) rest]
end

end Element

end InlineFormula
