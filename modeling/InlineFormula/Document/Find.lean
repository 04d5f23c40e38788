import InlineFormula.Document

/-!
Finding elements of a document. A finder looks at an element and its index; the indices at which
it holds are listed in order. A finder that fails ends the search.
-/

set_option autoImplicit false

namespace InlineFormula

abbrev Finder := Element Id → Nat → Except Fault Bool

namespace Finder

/-- A tag that names no kind is the tag of no element. -/
def kindIs (tag : String) : Finder := fun element _ => .ok (element.kind.tag == tag)

def valueIs (value : String) : Finder := fun element _ => .ok (element.value == value)

def operand : Finder := fun element _ => .ok element.isOperand

def modifier : Finder := fun element _ => .ok element.isModifier

def childrenOver (bound : Int) : Finder := fun element _ =>
  .ok (decide (bound < element.children.length))

/-- The remainder has the sign of the modulus. -/
def indexRemainder (modulus remainder : Int) : Finder := fun _ index =>
  if modulus = 0 then .error .zeroModulus
  else .ok (Int.fmod index modulus == remainder)

def fails : Finder := fun _ _ => .error .findFailed

end Finder

/-- The indices at which a finder holds, the first element having index `start`. -/
def findFrom (finder : Finder) (start : Nat) : List (Element Id) → Except Fault (List Nat)
  | [] => .ok []
  | element :: rest =>
      match finder element start with
      | .error fault => .error fault
      | .ok holds =>
          (findFrom finder (start + 1) rest).map fun found =>
            if holds then start :: found else found

def Document.find (document : Document) (finder : Finder) : Except Fault (List Nat) :=
  findFrom finder 0 document.elements

end InlineFormula
