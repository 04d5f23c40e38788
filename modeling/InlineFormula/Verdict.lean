import InlineFormula.Datum
import InlineFormula.Rule.RuleType

/-!
Verdicts on a formula: whether it is valid, and the violations found.
-/

namespace InlineFormula

/-- A message that stands among the options may be any datum. The index is a position in the text
for brackets, in the list of elements otherwise; a validator of the caller's own may report any
integer. -/
structure Violation where
  message : Datum
  type : RuleType
  index : Option Int

structure Verdict where
  valid : Bool
  violations : List Violation

namespace Verdict

/-- A formula without violations is valid. -/
def ofViolations (violations : List Violation) : Verdict := ⟨violations.isEmpty, violations⟩

def passed : Verdict := ofViolations []

end Verdict

end InlineFormula
