import InlineFormula.Element

/-!
Markers announce a modifier: one character for superscripts, one for subscripts.
-/

namespace InlineFormula

inductive Marker where
  | superscript
  | subscript
  deriving DecidableEq, Repr

namespace Marker

def char : Marker → Char
  | superscript => '^'
  | subscript => '_'

def kind : Marker → Kind
  | superscript => .superscript
  | subscript => .subscript

def ofChar? (char : Char) : Option Marker :=
  if char = '^' then some superscript else if char = '_' then some subscript else none

def ofKind? : Kind → Option Marker
  | .superscript => some superscript
  | .subscript => some subscript
  | _ => none

theorem of_char_eq_some {marker : Marker} {char : Char} :
    ofChar? char = some marker ↔ char = marker.char := by
  cases marker <;> by_cases caret : char = '^' <;> by_cases bar : char = '_' <;>
    simp_all [ofChar?, Marker.char]

theorem of_kind_eq_some {marker : Marker} {kind : Kind} :
    ofKind? kind = some marker ↔ kind = marker.kind := by
  cases marker <;> cases kind <;> simp [ofKind?, Marker.kind]

end Marker

end InlineFormula
