import InlineFormula.Check.Adjacency
import InlineFormula.Check.Brackets
import InlineFormula.Rule
import InlineFormula.Text.Blank
import InlineFormula.Verdict

/-!
Applying rules to a formula. Every rule of a list is applied, in order, and each that fails adds
one violation; only a predicate that fails in its own way, or a missing message, cuts this short.
-/

set_option autoImplicit false

namespace InlineFormula

/-- What a built-in check finds; a failed one may point at a position. -/
inductive Finding where
  | passed
  | failed (position : Option Nat)
  deriving DecidableEq, Repr

namespace Finding

def ofPosition? : Option Nat → Finding
  | none => passed
  | some position => failed (some position)

def ofBool (holds : Bool) : Finding := if holds then passed else failed none

end Finding

/-- Brackets, blankness and the equals sign are sought in the text, neighbours among the
elements. -/
def Check.find {ι : Type} (settings : Settings) (text : String) (elements : List (Element ι)) :
    Check → Finding
  | .bracketsMatch =>
      .ofPosition? ((Brackets.ofString settings.brackets).firstFault text.toList)
  | .operatorsSurrounded => .ofPosition? (Adjacency.firstUnsurrounded elements)
  | .nonEmpty => .ofBool (!Text.isBlank text)
  | .hasEquals => .ofBool (text.toList.contains '=')
  | .noConsecutiveOperands => .ofPosition? (Adjacency.firstConsecutive elements)

namespace Rule

/-- A rule's own message counts unless it is absent or empty. -/
def chooseMessage (settings : Settings) (type : RuleType) (own : Option String) :
    Except Fault Datum :=
  match own with
  | none => settings.messageFor type
  | some message =>
      if message.isEmpty then settings.messageFor type else .ok (.text message)

def violation (settings : Settings) (type : RuleType) (own : Option String)
    (position : Option Nat) : Except Fault Violation :=
  (chooseMessage settings type own).map fun message => ⟨message, type, position.map Int.ofNat⟩

/-- The violation that a rule finds, if any; a rule of unknown type finds none. -/
def apply (settings : Settings) (text : String) (elements : List (Element Id)) :
    Rule → Except Fault (Option Violation)
  | check type own =>
      match type.find settings text elements with
      | .passed => .ok none
      | .failed position => (violation settings (.check type) own position).map some
  | custom predicate own =>
      match predicate text elements with
      | .error fault => .error fault
      | .ok true => .ok none
      | .ok false => (violation settings .custom own none).map some
  | unknown _ _ _ => .ok none

def applyAll (settings : Settings) (text : String) (elements : List (Element Id)) :
    List Rule → Except Fault (List Violation)
  | [] => .ok []
  | rule :: rest =>
      match rule.apply settings text elements with
      | .error fault => .error fault
      | .ok found =>
          match applyAll settings text elements rest with
          | .error fault => .error fault
          | .ok others => .ok (found.toList ++ others)

end Rule

/-- The verdict of a list of rules. -/
def Verdict.ofRules (settings : Settings) (text : String) (elements : List (Element Id))
    (rules : List Rule) : Except Fault Verdict :=
  (Rule.applyAll settings text elements rules).map ofViolations

/-- Which of the built-in checks a formula passes. -/
def Check.summarize (settings : Settings) (text : String) (elements : List (Element Id)) :
    Except Fault (List (Check × Bool)) :=
  Check.all.mapM fun type =>
    ((Rule.check type none).apply settings text elements).map fun found => (type, found.isNone)

end InlineFormula
