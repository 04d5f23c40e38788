import InlineFormula.Rule

/-!
Ready-made predicates for custom rules.
-/

set_option autoImplicit false

namespace InlineFormula

inductive Comparison where
  | equal
  | less
  | greater
  deriving DecidableEq, Repr

def Comparison.holds (left right : Int) : Comparison → Bool
  | equal => left == right
  | less => decide (left < right)
  | greater => decide (left > right)

/-- Whether one list of characters occurs within another; the empty one always does. -/
def occursIn (part : List Char) : List Char → Bool
  | [] => part.isEmpty
  | char :: rest => part.isPrefixOf (char :: rest) || occursIn part rest

namespace Predicate

/-- Gives the truth of one datum, whatever the formula. -/
def constant (value : Datum) : Predicate := fun _ _ => .ok value.asBool

def countIs (comparison : Comparison) (bound : Int) : Predicate := fun _ elements =>
  .ok (comparison.holds elements.length bound)

def contains (part : String) : Predicate := fun text _ => .ok (occursIn part.toList text.toList)

def textIs (expected : String) : Predicate := fun text _ => .ok (text == expected)

/-- A tag that names no kind is the tag of no element. -/
def hasKind (tag : String) : Predicate := fun _ elements =>
  .ok (elements.any fun element => element.kind.tag == tag)

def fails (cause message : String) : Predicate := fun _ _ => .error (.raised cause message)

end Predicate

end InlineFormula
