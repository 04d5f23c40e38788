/-!
Elements of a formula: a kind, the text it shows, and children that decorate it. The type of the
identifiers is a parameter, so that a statement about what a formula is does not mention them;
an element without identifiers is a shape.
-/

set_option autoImplicit false

namespace InlineFormula

inductive Kind where
  | symbol
  | number
  | letter
  | function
  | bracket
  | operator
  | superscript
  | subscript
  | fraction
  | root
  | integral
  deriving DecidableEq, Repr

namespace Kind

def all : List Kind :=
  [symbol, number, letter, function, bracket, operator, superscript, subscript, fraction, root,
    integral]

def tag : Kind → String
  | symbol => "symbol"
  | number => "number"
  | letter => "variable"
  | function => "function"
  | bracket => "bracket"
  | operator => "operator"
  | superscript => "superscript"
  | subscript => "subscript"
  | fraction => "fraction"
  | root => "root"
  | integral => "integral"

/-- A tag names a kind only when it is spelled exactly. -/
def ofTag? (tag : String) : Option Kind := all.find? fun kind => kind.tag == tag

theorem of_tag_tag (kind : Kind) : ofTag? kind.tag = some kind := by
  cases kind <;> decide

/-- Operands are what an operator may stand beside; brackets count as such. -/
def isOperand : Kind → Bool
  | number | letter | function | bracket => true
  | _ => false

def isModifier : Kind → Bool
  | superscript | subscript => true
  | _ => false

end Kind

/-- The children of an element are its modifiers when it was read from text; built by hand, an
element may hold any children. -/
structure Element (ι : Type) where
  kind : Kind
  value : String
  children : List (Element ι)
  id : ι

abbrev Shape := Element Unit

namespace Element

variable {ι κ : Type}

def isOperand (element : Element ι) : Bool := element.kind.isOperand

def isModifier (element : Element ι) : Bool := element.kind.isModifier

def superscripts (element : Element ι) : List (Element ι) :=
  element.children.filter fun child => child.kind == .superscript

def subscripts (element : Element ι) : List (Element ι) :=
  element.children.filter fun child => child.kind == .subscript

mutual
/-- The shape of an element is what remains without identifiers, its own and its children's. -/
def shape : Element ι → Shape
  | ⟨kind, value, children, _⟩ => ⟨kind, value, shapes children, ()⟩

def shapes : List (Element ι) → List Shape
  | [] => []
  | element :: rest => element.shape :: shapes rest
end

mutual
/-- Two elements are the same when they differ in nothing but identifiers. -/
def same : Element ι → Element κ → Bool
  | ⟨leftKind, leftValue, leftChildren, _⟩, ⟨rightKind, rightValue, rightChildren, _⟩ =>
      leftKind == rightKind && leftValue == rightValue && allSame leftChildren rightChildren

def allSame : List (Element ι) → List (Element κ) → Bool
  | [], [] => true
  | left :: lefts, right :: rights => left.same right && allSame lefts rights
  | _, _ => false
end

mutual
theorem same_iff : (left : Element ι) → (right : Element κ) →
    (left.same right = true ↔ left.shape = right.shape)
  | ⟨_, _, leftChildren, _⟩, ⟨_, _, rightChildren, _⟩ => by
      simp [same, shape, all_same_iff leftChildren rightChildren, and_assoc]

theorem all_same_iff : (lefts : List (Element ι)) → (rights : List (Element κ)) →
    (allSame lefts rights = true ↔ shapes lefts = shapes rights)
  | [], [] => by simp [allSame, shapes]
  | [], _ :: _ => by simp [allSame, shapes]
  | _ :: _, [] => by simp [allSame, shapes]
  | left :: lefts, right :: rights => by
      simp [allSame, shapes, same_iff left right, all_same_iff lefts rights]
end

theorem shapes_eq_map (elements : List (Element ι)) : shapes elements = elements.map shape := by
  induction elements with
  | nil => rfl
  | cons element rest induction => simp [shapes, induction]

theorem shapes_append (front back : List (Element ι)) :
    shapes (front ++ back) = shapes front ++ shapes back := by
  simp [shapes_eq_map]

mutual
/-- A shape has nothing left to forget. -/
theorem shape_shape : (element : Element ι) → element.shape.shape = element.shape
  | ⟨_, _, children, _⟩ => by simp [shape, shapes_shapes children]

theorem shapes_shapes : (elements : List (Element ι)) → shapes (shapes elements) = shapes elements
  | [] => rfl
  | element :: rest => by simp [shapes, shape_shape element, shapes_shapes rest]
end

mutual
/-- The number of elements in a tree, the element itself included. -/
def size : Element ι → Nat
  | ⟨_, _, children, _⟩ => totalSize children + 1

def totalSize : List (Element ι) → Nat
  | [] => 0
  | element :: rest => element.size + totalSize rest
end

mutual
/-- Identifiers in reading order: an element comes before its children. -/
def preorderIds : Element ι → List ι
  | ⟨_, _, children, id⟩ => id :: allPreorderIds children

def allPreorderIds : List (Element ι) → List ι
  | [] => []
  | element :: rest => element.preorderIds ++ allPreorderIds rest
end

mutual
/-- Identifiers in building order: an element comes after its children. -/
def postorderIds : Element ι → List ι
  | ⟨_, _, children, id⟩ => allPostorderIds children ++ [id]

def allPostorderIds : List (Element ι) → List ι
  | [] => []
  | element :: rest => element.postorderIds ++ allPostorderIds rest
end

end Element

end InlineFormula
