import InlineFormula.Document.Edit

/-!
Reaching into the elements of a document. A path of positions leads from a top-level element down
through children. An element that was handed out as a copy shares with the document only what
lies below its children, and the lists that its children keep their own children in.
-/

set_option autoImplicit false

namespace InlineFormula

/-- A negative position counts from the end. -/
def listPosition (index : Int) (length : Nat) : Except Fault Nat :=
  if 0 ≤ index ∧ index < length then .ok index.toNat
  else if index < 0 ∧ 0 ≤ index + length then .ok (index + length).toNat
  else .error .indexOutOfRange

/-- How an element is taken from a document: as the element itself, or as a copy of it. -/
inductive Access where
  | shared
  | copied
  deriving DecidableEq, Repr

/-- A new value, a further child, or both, for the element at the end of a path. -/
structure Touch where
  value : Option String := none
  child : Option (Element Id) := none

namespace Touch

def apply (touch : Touch) (element : Element Id) : Element Id :=
  { element with
    value := touch.value.getD element.value
    children := element.children ++ touch.child.toList }

/-- What of a touch reaches the document: all of it through the element itself; through a copy, a
value from two steps down on and a child from one step down on. -/
def reaching (access : Access) (depth : Nat) (touch : Touch) : Touch :=
  match access with
  | .shared => touch
  | .copied =>
      { value := if 2 ≤ depth then touch.value else none
        child := if 1 ≤ depth then touch.child else none }

end Touch

/-- Applies a touch at the end of a path; a path that leads nowhere is a fault. -/
def Element.touchAt (touch : Touch) (element : Element Id) :
    List Int → Except Fault (Element Id)
  | [] => .ok (touch.apply element)
  | index :: path =>
      match listPosition index element.children.length with
      | .error fault => .error fault
      | .ok place =>
          match element.children[place]? with
          | none => .error .indexOutOfRange
          | some child =>
              (child.touchAt touch path).map fun touched =>
                { element with children := element.children.set place touched }

namespace Document

/-- The place of the element to reach into; a copy of nothing is no element. -/
def accessPlace (document : Document) (access : Access) (index : Int) :
    Except Fault (Option Nat) :=
  match access with
  | .shared => (listPosition index document.elements.length).map some
  | .copied => .ok (indexWithin index document.elements.length)

def touch (document : Document) (place : Nat) (path : List Int) (touch : Touch) :
    Except Fault Document :=
  match document.elements[place]? with
  | none => .error .indexOutOfRange
  | some element =>
      (element.touchAt touch path).map fun touched =>
        { document with elements := document.elements.set place touched }

end Document

end InlineFormula
