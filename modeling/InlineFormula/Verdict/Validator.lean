import InlineFormula.Element.Ids
import InlineFormula.Rule.Tag
import InlineFormula.Fault
import InlineFormula.Verdict

/-!
Verdicts given from outside. A draft names the types of its violations by tags, which are
recognised as those of rules are. A validator gives a verdict of its own on a formula.
-/

set_option autoImplicit false

namespace InlineFormula

structure ViolationDraft where
  message : Option String
  tag : Datum
  index : Option Int

def ViolationDraft.build (draft : ViolationDraft) : Except Fault Violation :=
  match RuleType.ofDatum? draft.tag with
  | some type => .ok ⟨draft.message.elim .null .text, type, draft.index⟩
  | none => .error (.unknownRuleType draft.tag)

/-- Validity may be claimed; otherwise it follows from the violations. -/
structure VerdictDraft where
  valid : Option Bool
  violations : List ViolationDraft

def VerdictDraft.build (draft : VerdictDraft) : Except Fault Verdict :=
  (draft.violations.mapM ViolationDraft.build).map fun violations =>
    match draft.valid with
    | some valid => ⟨valid, violations⟩
    | none => .ofViolations violations

/-- A validator sees the text and its elements, and may fail in its own way. -/
abbrev Validator := String → List (Element Id) → Except Fault Verdict

namespace Validator

/-- Gives one verdict on every formula. Its draft is built when the verdict is asked for, so a
draft that does not fit is a fault of the validation and not of the configuration. -/
def constant (draft : VerdictDraft) : Validator := fun _ _ => draft.build

/-- Finds fault with every formula, showing the text and the number of elements it saw. -/
def echo : Validator := fun text elements =>
  .ok ⟨false, [⟨.text text, .custom, some elements.length⟩]⟩

def fails (cause message : String) : Validator := fun _ _ => .error (.raised cause message)

end Validator

end InlineFormula
