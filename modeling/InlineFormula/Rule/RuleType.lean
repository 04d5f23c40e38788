/-!
Types of validation rules: five built-in checks and the custom rule. A type has a tag, which is
how it is written, and a key, which is how loosely spelled tags are recognised.
-/

namespace InlineFormula

inductive Check where
  | bracketsMatch
  | operatorsSurrounded
  | nonEmpty
  | hasEquals
  | noConsecutiveOperands
  deriving DecidableEq, Repr

def Check.all : List Check :=
  [.bracketsMatch, .operatorsSurrounded, .nonEmpty, .hasEquals, .noConsecutiveOperands]

inductive RuleType where
  | check (check : Check)
  | custom
  deriving DecidableEq, Repr

namespace RuleType

def all : List RuleType := Check.all.map check ++ [custom]

def tag : RuleType → String
  | check .bracketsMatch => "brackets-match"
  | check .operatorsSurrounded => "operators-surrounded"
  | check .nonEmpty => "non-empty"
  | check .hasEquals => "has-equals"
  | check .noConsecutiveOperands => "no-consecutive-operands"
  | custom => "custom"

/-- The key of a type is its tag without hyphens. -/
def key (type : RuleType) : List Char := type.tag.toList.filter fun char => char != '-'

theorem mem_all (type : RuleType) : type ∈ all := by
  cases type with
  | check check => cases check <;> decide
  | custom => decide

end RuleType

end InlineFormula
