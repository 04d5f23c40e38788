import InlineFormula.Fault

/-!
Settings for reading and checking formulas: the names of functions, the characters that are
operators and brackets, what becomes of rules of unknown type, and the messages of failed rules.
-/

set_option autoImplicit false

namespace InlineFormula

/-- What to do with a rule whose tag is not known. -/
inductive UnknownRulePolicy where
  | reject
  | ignore
  deriving DecidableEq, Repr

namespace UnknownRulePolicy

def tag : UnknownRulePolicy → String
  | reject => "raise"
  | ignore => "ignore"

def choices : List Datum := [.text reject.tag, .text ignore.tag]

def ofDatum : Datum → Except Fault UnknownRulePolicy
  | .text given =>
      if given = reject.tag then .ok reject
      else if given = ignore.tag then .ok ignore
      else .error (.notAChoice choices (.text given))
  | given => .error (.notAChoice choices given)

end UnknownRulePolicy

/-- Messages by the tags of rules. A message may be any datum. -/
abbrev Messages := List (String × Datum)

def Messages.standard : Messages :=
  [(RuleType.tag (.check .bracketsMatch), .text "Brackets do not match"),
    (RuleType.tag (.check .operatorsSurrounded), .text "Operators must be surrounded by operands"),
    (RuleType.tag (.check .nonEmpty), .text "Formula cannot be empty"),
    (RuleType.tag (.check .hasEquals), .text "Formula must contain an equals sign"),
    (RuleType.tag (.check .noConsecutiveOperands),
      .text "Operands cannot appear consecutively, join them with an operator"),
    (RuleType.tag .custom, .text "Custom validation failed")]

/-- Entries of the second list replace those of the first that have the same tag. -/
def Messages.merge (base newer : Messages) : Messages :=
  base.filter (fun entry => !newer.any fun other => other.1 == entry.1) ++ newer

/-- What options come to when formulas are read and checked. Messages are looked for only when one
is needed, and may be missing then. -/
structure Settings where
  functionNames : List String := ["sin", "cos", "tan", "log", "ln"]
  operators : String := "+-×÷*/="
  brackets : String := "()[]\x7b\x7d"
  unknownRule : UnknownRulePolicy := .reject
  messages : Except Fault Messages := .ok .standard

/-- A function name is a non-empty text of ASCII letters. -/
def Setting.isFunctionName (name : String) : Bool := !name.isEmpty && name.toList.all Char.isAlpha

/-- The message for a failed rule of this type. -/
def Settings.messageFor (settings : Settings) (type : RuleType) : Except Fault Datum :=
  match settings.messages with
  | .error fault => .error fault
  | .ok messages =>
      match messages.lookup type.tag with
      | some message => .ok message
      | none => .error (.messageMissing type)

end InlineFormula
