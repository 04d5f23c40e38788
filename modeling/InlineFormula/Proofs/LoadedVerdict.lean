import InlineFormula.Document.Edit
import InlineFormula.Proofs.NormalChecks
import InlineFormula.Proofs.UsableSettings
import Mathlib.Data.List.Forall2

/-!
Verdicts on a text and on a document that was loaded with it. The document is judged by the
normal form of the text, whatever it held before, and both verdicts report the same failures.
-/

set_option autoImplicit false

namespace InlineFormula

def Violation.AgreesWith (left right : Violation) : Prop :=
  left.message = right.message ∧ left.type = right.type ∧
    (left.type ≠ .check .bracketsMatch → left.index = right.index)

namespace Rule

theorem choose_message_ok (settings : Settings) (complete : settings.MessagesComplete)
    (type : RuleType) (own : Option String) :
    ∃ message, chooseMessage settings type own = .ok message := by
  obtain ⟨standard, found⟩ := complete type
  cases own with
  | none => exact ⟨standard, found⟩
  | some message =>
      rw [chooseMessage]
      split
      · exact ⟨standard, found⟩
      · exact ⟨.text message, rfl⟩

theorem apply_agrees (settings : Settings) (complete : settings.MessagesComplete)
    (leftText rightText : String) (leftElements rightElements : List (Element Id))
    (check : Check) (own : Option String)
    (agree : (check.find settings leftText leftElements).AgreesWith check
      (check.find settings rightText rightElements)) :
    ∃ left right, (Rule.check check own).apply settings leftText leftElements = .ok left ∧
      (Rule.check check own).apply settings rightText rightElements = .ok right ∧
      List.Forall₂ Violation.AgreesWith left.toList right.toList := by
  obtain ⟨message, chosen⟩ := choose_message_ok settings complete (.check check) own
  simp only [apply]
  generalize check.find settings leftText leftElements = leftFinding at agree ⊢
  generalize check.find settings rightText rightElements = rightFinding at agree ⊢
  cases leftFinding with
  | passed =>
      cases rightFinding with
      | passed => exact ⟨none, none, rfl, rfl, .nil⟩
      | failed right => exact agree.elim
  | failed left =>
      cases rightFinding with
      | passed => exact agree.elim
      | failed right =>
          simp only [violation, chosen]
          refine ⟨_, _, rfl, rfl, .cons ⟨rfl, rfl, ?_⟩ .nil⟩
          intro other
          have samePosition : left = right := by
            apply agree
            intro same
            exact other (by rw [same])
          rw [samePosition]

theorem apply_all_agree (settings : Settings) (complete : settings.MessagesComplete)
    (leftText rightText : String) (leftElements rightElements : List (Element Id))
    (agree : ∀ check : Check, (check.find settings leftText leftElements).AgreesWith check
      (check.find settings rightText rightElements))
    (rules : List Rule) (builtIn : ∀ rule ∈ rules, ∃ check own, rule = .check check own) :
    ∃ left right, applyAll settings leftText leftElements rules = .ok left ∧
      applyAll settings rightText rightElements rules = .ok right ∧
      List.Forall₂ Violation.AgreesWith left right := by
  induction rules with
  | nil => exact ⟨[], [], rfl, rfl, .nil⟩
  | cons rule rest induction =>
      obtain ⟨check, own, rfl⟩ := builtIn rule List.mem_cons_self
      obtain ⟨left, right, leftFound, rightFound, first⟩ :=
        apply_agrees settings complete leftText rightText leftElements rightElements check own
          (agree check)
      obtain ⟨lefts, rights, leftsFound, rightsFound, others⟩ :=
        induction fun other member => builtIn other (List.mem_cons_of_mem _ member)
      refine ⟨left.toList ++ lefts, right.toList ++ rights, ?_, ?_, ?_⟩
      · simp only [applyAll, leftFound, leftsFound]
      · simp only [applyAll, rightFound, rightsFound]
      · exact List.rel_append first others

end Rule

namespace Document

/-- Documents that hold what was read from a text: new ones that start with it, and those that
were given it later, whatever they held before and however they were validated. -/
inductive LoadedWith (settings : Settings) (text : String) : Document → Prop where
  | started (configuration : Configuration) (drawn : Nat) :
      LoadedWith settings text (start settings configuration drawn text).1.document
  | given (configuration : Configuration) (drawn : Nat) (document : Document) :
      LoadedWith settings text
        (document.edit settings configuration drawn (.setText text)).1.document

theorem set_text_elements (settings : Settings) (configuration : Configuration) (drawn : Nat)
    (document : Document) (text : String) :
    (document.edit settings configuration drawn (.setText text)).1.document.elements =
      Formula.parseNumbered settings drawn text := by
  simp only [edit, Edit.revise]
  split
  · exact validate_elements settings configuration _
  · rfl

theorem loaded_elements (settings : Settings) (text : String) (document : Document)
    (loaded : LoadedWith settings text document) :
    ∃ drawn, document.elements = Formula.parseNumbered settings drawn text := by
  cases loaded with
  | given configuration drawn document =>
      exact ⟨drawn, set_text_elements settings configuration drawn document text⟩
  | started configuration drawn =>
      refine ⟨drawn, ?_⟩
      rw [start]
      split
      case isTrue empty =>
        rw [String.isEmpty_iff.mp empty, Formula.parseNumbered, Formula.parse, Formula.parseChars,
          String.toList_empty, tokens_nil]
        rfl
      case isFalse => exact set_text_elements settings configuration drawn {} text

theorem judge_rules (settings : Settings) (configuration : Configuration)
    (unset : configuration.validator = none) (document : Document) :
    document.judge settings configuration =
      Verdict.ofRules settings document.text document.elements configuration.rules := by
  simp only [judge, unset]
  split
  -- Without rules nothing is judged, and a list of no rules finds nothing either.
  case isTrue empty =>
    rw [List.isEmpty_iff.mp empty]
    rfl
  case isFalse => rfl

end Document

/-- A document that was loaded with a text is judged as the text is. -/
theorem loaded_verdict_agrees (settings : Settings) (complete : settings.MessagesComplete)
    (braces : (Brackets.ofString settings.brackets).BracesClose) (text : String)
    (unmarked : ∀ marker : Marker, text.toList.head? = some marker.char →
      settings.active marker = false)
    (keeps : settings.KeepsBrackets text.toList) (configuration : Configuration)
    (builtIn : ∀ rule ∈ configuration.rules, ∃ check own, rule = .check check own)
    (unset : configuration.validator = none) (drawn : Nat) (document : Document)
    (loaded : document.LoadedWith settings text) :
    document.text = Formula.normalize settings text ∧ ∃ onDocument onText,
      (document.validate settings configuration).result = .ok onDocument ∧
      Verdict.ofRules settings text (Formula.parseNumbered settings drawn text)
        configuration.rules = .ok onText ∧
      onDocument.valid = onText.valid ∧
      List.Forall₂ Violation.AgreesWith onDocument.violations onText.violations := by
  obtain ⟨before, held⟩ := Document.loaded_elements settings text document loaded
  have sameElements : Element.shapes document.elements =
      Element.shapes (Formula.parseNumbered settings drawn text) := by
    rw [held, Formula.parse_numbered_shapes, Formula.parse_numbered_shapes]
  have written : document.text = Formula.normalize settings text := by
    rw [Document.text, held, Formula.write_parse_numbered]
  obtain ⟨lefts, rights, leftsFound, rightsFound, agree⟩ :=
    Rule.apply_all_agree settings complete (Formula.normalize settings text) text
      document.elements (Formula.parseNumbered settings drawn text)
      (Check.find_agrees settings braces text unmarked keeps _ _ sameElements)
      configuration.rules builtIn
  refine ⟨written, .ofViolations lefts, .ofViolations rights, ?_, ?_, ?_, agree⟩
  · rw [Document.validate_result, Document.judge_rules settings configuration unset, written,
      Verdict.ofRules, leftsFound]
    rfl
  · rw [Verdict.ofRules, rightsFound]
    rfl
  · cases agree <;> rfl

/-- The normal form of this text has two characters more before the bracket at fault. -/
theorem loaded_verdict_agrees_unopened :
    (({} : Settings).MessagesComplete ∧
      (Brackets.ofString ({} : Settings).brackets).BracesClose ∧
      (∀ marker : Marker, "x^2)".toList.head? = some marker.char →
        ({} : Settings).active marker = false) ∧
      ({} : Settings).KeepsBrackets "x^2)".toList) ∧
    ∃ onDocument onText,
      ((Document.start {} {} 0 "x^2)").1.document.validate {}
        { rules := [.check .bracketsMatch none, .check .hasEquals (some "no sign")] }).result =
          .ok onDocument ∧
      Verdict.ofRules {} "x^2)" (Formula.parseNumbered {} 5 "x^2)")
        [.check .bracketsMatch none, .check .hasEquals (some "no sign")] = .ok onText ∧
      onDocument.valid = onText.valid ∧
      List.Forall₂ Violation.AgreesWith onDocument.violations onText.violations := by
  have braces : (Brackets.ofString ({} : Settings).brackets).BracesClose := by
    exact Or.inr (by decide)
  have unmarked : ∀ marker : Marker, "x^2)".toList.head? = some marker.char →
      ({} : Settings).active marker = false := by
    intro marker
    cases marker <;> decide
  have scanned : tokens {} "x^2)".toList =
      [.atom .letter ['x'], .modifier .superscript (.bare '2'), .atom .bracket [')']] := by
    decide +kernel
  have keeps : ({} : Settings).KeepsBrackets "x^2)".toList := by
    intro marker spelling member
    rw [scanned] at member
    obtain ⟨-, rfl⟩ : marker = .superscript ∧ spelling = .bare '2' := by simpa using member
    refine ⟨nofun, ?_⟩
    intro char same
    obtain rfl : '2' = char := by simpa using same
    simp only [Brackets.IsBracket]
    decide
  have complete := messages_complete_of_standard {} rfl
  refine ⟨⟨complete, braces, unmarked, keeps⟩, ?_⟩
  exact (loaded_verdict_agrees {} complete braces "x^2)" unmarked keeps
    { rules := [.check .bracketsMatch none, .check .hasEquals (some "no sign")] }
    (by simp) rfl 5 _ (.started {} 0)).2

end InlineFormula
