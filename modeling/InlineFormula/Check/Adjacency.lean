import InlineFormula.Element

/-!
Neighbours in a list of elements. Operators want operands beside them, and operands want an
operator between them. Both checks report the position of the first element at fault.
-/

set_option autoImplicit false

namespace InlineFormula

namespace Element

variable {ι : Type}

/-- The equals sign and the plus-minus sign are operators that may stand anywhere. -/
def isCheckedOperator (element : Element ι) : Bool :=
  element.kind == .operator && element.value != "=" && element.value != "±"

/-- A sign may stand without an operand before it. -/
def isSign (element : Element ι) : Bool := element.value == "+" || element.value == "-"

end Element

namespace Adjacency

variable {ι : Type}

def startsWithOperand : List (Element ι) → Bool
  | [] => false
  | element :: _ => element.isOperand

/-- Whether an element has the neighbours it wants, `operandBefore` telling of the one on the
left. -/
def surrounded (operandBefore : Bool) (element : Element ι) (rest : List (Element ι)) : Bool :=
  !element.isCheckedOperator || startsWithOperand rest && (operandBefore || element.isSign)

def firstUnsurroundedAfter (operandBefore : Bool) : List (Element ι) → Option Nat
  | [] => none
  | element :: rest =>
      if surrounded operandBefore element rest then
        (firstUnsurroundedAfter element.isOperand rest).map (· + 1)
      else some 0

/-- The position of the first operator without the operands it wants. -/
def firstUnsurrounded (elements : List (Element ι)) : Option Nat :=
  firstUnsurroundedAfter false elements

def firstConsecutiveAfter (operandBefore : Bool) : List (Element ι) → Option Nat
  | [] => none
  | element :: rest =>
      if operandBefore && element.isOperand then some 0
      else (firstConsecutiveAfter element.isOperand rest).map (· + 1)

/-- The position of the first operand right behind another. -/
def firstConsecutive (elements : List (Element ι)) : Option Nat :=
  firstConsecutiveAfter false elements

end Adjacency

end InlineFormula
