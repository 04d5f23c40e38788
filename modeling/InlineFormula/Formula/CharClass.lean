import InlineFormula.Formula.Marker
import InlineFormula.Settings

/-!
Classes of characters. The class of a character decides what is read where it stands. Digits and
ASCII letters have theirs for good; of the others the settings claim some as operators or
brackets, and a marker so claimed announces nothing.
-/

namespace InlineFormula

inductive CharClass where
  | numeric
  | letter
  | operator
  | bracket
  | marker (marker : Marker)
  | symbol
  deriving DecidableEq, Repr

/-- Numbers are written in ASCII digits and points. -/
def isNumeric (char : Char) : Bool := char.isDigit || char == '.'

def Settings.classify (settings : Settings) (char : Char) : CharClass :=
  if isNumeric char then .numeric
  else if char.isAlpha then .letter
  else if settings.operators.toList.contains char then .operator
  else if settings.brackets.toList.contains char then .bracket
  else match Marker.ofChar? char with
    | some marker => .marker marker
    | none => .symbol

/-- A marker is active unless the settings claim its character. -/
def Settings.active (settings : Settings) (marker : Marker) : Bool :=
  !settings.operators.toList.contains marker.char && !settings.brackets.toList.contains marker.char

theorem classify_letter_iff (settings : Settings) (char : Char) :
    settings.classify char = .letter ↔ isNumeric char = false ∧ char.isAlpha = true := by
  unfold Settings.classify
  repeat' split
  all_goals simp_all

theorem classify_marker_iff (settings : Settings) (char : Char) (marker : Marker) :
    settings.classify char = .marker marker ↔
      char = marker.char ∧ settings.active marker = true := by
  constructor
  · intro marked
    have announced : char = marker.char := by
      apply Marker.of_char_eq_some.mp
      unfold Settings.classify at marked
      repeat' split at marked
      all_goals simp_all
    subst announced
    unfold Settings.classify at marked
    repeat' split at marked
    all_goals simp_all [Settings.active]
  · rintro ⟨rfl, unclaimed⟩
    simp only [Settings.active, Bool.and_eq_true, Bool.not_eq_true'] at unclaimed
    have spelled : Marker.ofChar? marker.char = some marker := Marker.of_char_eq_some.mpr rfl
    unfold Settings.classify
    simp only [unclaimed, spelled]
    cases marker <;> decide

end InlineFormula
