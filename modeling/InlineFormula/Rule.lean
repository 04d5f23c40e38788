import InlineFormula.Element.Ids
import InlineFormula.Rule.Tag
import InlineFormula.Settings

/-!
Validation rules. A rule is built from a draft, whose tag may be any datum. A tag that is not
known is refused, or kept as a rule that never fails if the settings say so.
-/

set_option autoImplicit false

namespace InlineFormula

/-- A predicate sees the text and its elements, and may fail in its own way. -/
abbrev Predicate := String → List (Element Id) → Except Fault Bool

structure RuleDraft where
  tag : Datum
  message : Option String := none
  predicate : Option Predicate := none

inductive Rule where
  | check (check : Check) (message : Option String)
  | custom (predicate : Predicate) (message : Option String)
  | unknown (tag : Datum) (message : Option String) (predicate : Option Predicate)

namespace Rule

/-- Custom rules need a predicate and built-in ones take none; a rule of unknown type is not
looked at any closer. -/
def build (settings : Settings) (draft : RuleDraft) : Except Fault Rule :=
  match RuleType.ofDatum? draft.tag, draft.predicate with
  | none, predicate =>
      match settings.unknownRule with
      | .reject => .error (.unknownRule draft.tag)
      | .ignore => .ok (unknown draft.tag draft.message predicate)
  | some .custom, none => .error .predicateMissing
  | some .custom, some predicate => .ok (custom predicate draft.message)
  | some (.check type), none => .ok (check type draft.message)
  | some (.check type), some _ => .error (.predicateNotAccepted type)

def isKnown : Rule → Bool
  | unknown _ _ _ => false
  | _ => true

def message : Rule → Option String
  | check _ message => message
  | custom _ message => message
  | unknown _ message _ => message

def predicate : Rule → Option Predicate
  | check _ _ => none
  | custom predicate _ => some predicate
  | unknown _ _ predicate => predicate

/-- Known rules show the tag of their type, others the tag they were built with. -/
def shownTag : Rule → Datum
  | check type _ => .text (RuleType.check type).tag
  | custom _ _ => .text RuleType.custom.tag
  | unknown tag _ _ => tag

/-- A rule that was kept although its tag is not known comes with a warning. -/
def warning? : Rule → Option Warning
  | unknown tag _ _ => some (.ruleIgnored tag)
  | _ => none

/-- Rules agree when type and message do; predicates cannot be compared. -/
def agrees (left right : Rule) : Bool :=
  left.shownTag.agrees right.shownTag && left.message == right.message

end Rule

end InlineFormula
