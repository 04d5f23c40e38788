/-!
Descriptions taken over from another definition.
-/

namespace InlineFormula

/-- A description of one's own, if any, stands before the one taken over, with a blank line
between them. -/
def inheritDescription (own : String) (inherited : Option String) : String :=
  if own.isEmpty then inherited.getD "" else own ++ "\n\n" ++ inherited.getD ""

end InlineFormula
