import InlineFormula.Formula.Text
import InlineFormula.Rule.Apply
import InlineFormula.Verdict.Validator

/-!
Documents hold the elements of one formula and the last verdict on it. How a document is
validated is told by a configuration, which documents may share. Validation keeps its verdict;
without rules and without a validator every formula passes, and nothing is kept.
-/

set_option autoImplicit false

namespace InlineFormula

/-- A validator, when there is one, takes the place of the rules. -/
structure Configuration where
  auto : Bool := false
  rules : List Rule := []
  validator : Option Validator := none

def Configuration.isUnset (configuration : Configuration) : Bool :=
  configuration.rules.isEmpty && configuration.validator.isNone

structure Document where
  elements : List (Element Id) := []
  last : Option Verdict := none

/-- What validation notes down. -/
inductive LogEntry where
  | validated (text : String) (rules violations : Nat)
  | failed (text : String) (violations : Nat)
  deriving DecidableEq, Repr

def LogEntry.message : LogEntry → String
  | validated text rules violations =>
      "Validated " ++ Text.quoted text ++ " against " ++ toString rules ++ " rules: " ++
        toString violations ++ " errors"
  | failed text violations =>
      "Formula " ++ Text.quoted text ++ " failed validation with " ++ toString violations ++
        " errors"

/-- What an operation leaves behind: the document, its result or the fault that cut it short,
and the entries for the log. -/
structure Outcome (α : Type) where
  document : Document
  result : Except Fault α
  log : List LogEntry := []

namespace Document

def text (document : Document) : String := Formula.write document.elements

/-- The verdict on the present content, whatever verdict is kept. -/
def judge (settings : Settings) (configuration : Configuration) (document : Document) :
    Except Fault Verdict :=
  match configuration.validator with
  | some validator => validator document.text document.elements
  | none =>
      if configuration.rules.isEmpty then .ok .passed
      else Verdict.ofRules settings document.text document.elements configuration.rules

/-- Rules note each run, and both rules and validators note a formula that is not valid. -/
def logOf (configuration : Configuration) (document : Document) (verdict : Verdict) :
    List LogEntry :=
  let count := verdict.violations.length
  let run := match configuration.validator with
    | some _ => []
    | none => [LogEntry.validated document.text configuration.rules.length count]
  run ++ if verdict.valid then [] else [LogEntry.failed document.text count]

def validate (settings : Settings) (configuration : Configuration) (document : Document) :
    Outcome Verdict :=
  match document.judge settings configuration with
  | .error fault => { document, result := .error fault }
  | .ok verdict =>
      if configuration.isUnset then { document, result := .ok verdict }
      else
        { document := { document with last := some verdict }
          result := .ok verdict
          log := document.logOf configuration verdict }

theorem validate_result (settings : Settings) (configuration : Configuration)
    (document : Document) :
    (document.validate settings configuration).result =
      document.judge settings configuration := by
  unfold validate
  split
  case h_1 fault judged => exact judged.symm
  case h_2 verdict judged => split <;> exact judged.symm

/-- Validation never touches the content. -/
theorem validate_elements (settings : Settings) (configuration : Configuration)
    (document : Document) :
    (document.validate settings configuration).document.elements = document.elements := by
  unfold validate
  split
  · rfl
  · split <;> rfl

end Document

end InlineFormula
