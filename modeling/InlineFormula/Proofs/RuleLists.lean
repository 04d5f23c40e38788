import InlineFormula.Proofs.FormulaFaults
import InlineFormula.Rule.Predicates

/-!
Lists of rules. A list is judged rule by rule: the first predicate that raises a fault ends the
run with it, and otherwise the violations are those of the failing rules in their order, each as
that rule alone reports it. So the verdict of two lists in a row follows from those of both.
-/

set_option autoImplicit false

namespace InlineFormula

namespace Rule

def type? : Rule → Option RuleType
  | check type _ => some (.check type)
  | custom _ _ => some .custom
  | unknown _ _ _ => none

def raised? (text : String) (elements : List (Element Id)) : Rule → Option Fault
  | custom predicate _ =>
      match predicate text elements with
      | .error fault => some fault
      | .ok _ => none
  | _ => none

def fails (settings : Settings) (text : String) (elements : List (Element Id)) : Rule → Bool
  | check type _ => decide (type.find settings text elements ≠ .passed)
  | custom predicate _ =>
      match predicate text elements with
      | .error _ => false
      | .ok holds => !holds
  | unknown _ _ _ => false

variable (settings : Settings) (text : String) (elements : List (Element Id))

theorem violation_type (type : RuleType) (own : Option String) (position : Option Nat)
    (found : Violation) (made : violation settings type own position = .ok found) :
    found.type = type := by
  obtain ⟨message, -, rfl⟩ := of_map_eq_ok made
  rfl

theorem apply_raised (rule : Rule) (fault : Fault)
    (raises : rule.raised? text elements = some fault) :
    rule.apply settings text elements = .error fault := by
  cases rule with
  | check type own => cases raises
  | unknown tag own predicate => cases raises
  | custom predicate own =>
      rw [raised?] at raises
      cases judged : predicate text elements with
      | ok holds =>
          rw [judged] at raises
          cases raises
      | error raised =>
          rw [judged] at raises
          cases raises
          rw [apply, judged]

theorem apply_quiet (complete : settings.MessagesComplete) (rule : Rule)
    (quiet : rule.raised? text elements = none) :
    ∃ found, rule.apply settings text elements = .ok found ∧
      found.isSome = rule.fails settings text elements ∧
      ∀ violation, found = some violation → rule.type? = some violation.type := by
  cases rule with
  | check type own =>
      rw [fails, apply]
      cases type.find settings text elements with
      | passed =>
          refine ⟨none, rfl, rfl, ?_⟩
          intro violation same
          cases same
      | failed position =>
          obtain ⟨found, made⟩ := violation_ok settings complete (.check type) own position
          have typed := violation_type settings _ own position found made
          dsimp only
          rw [made]
          refine ⟨some found, rfl, rfl, ?_⟩
          intro violation same
          rw [← Option.some.inj same, typed, type?]
  | unknown tag own predicate =>
      refine ⟨none, rfl, rfl, ?_⟩
      intro violation same
      cases same
  | custom predicate own =>
      rw [raised?] at quiet
      rw [fails, apply]
      cases judged : predicate text elements with
      | error raised =>
          rw [judged] at quiet
          cases quiet
      | ok holds =>
          cases holds with
          | true =>
              refine ⟨none, rfl, rfl, ?_⟩
              intro violation same
              cases same
          | false =>
              obtain ⟨found, made⟩ := violation_ok settings complete .custom own none
              have typed := violation_type settings _ own none found made
              dsimp only
              rw [made]
              refine ⟨some found, rfl, rfl, ?_⟩
              intro violation same
              rw [← Option.some.inj same, typed, type?]

theorem apply_all_append (first second : List Rule) :
    applyAll settings text elements (first ++ second) =
      match applyAll settings text elements first, applyAll settings text elements second with
      | .error fault, _ => .error fault
      | .ok _, .error fault => .error fault
      | .ok front, .ok back => .ok (front ++ back) := by
  induction first with
  | nil =>
      rw [List.nil_append, applyAll]
      cases applyAll settings text elements second <;> rfl
  | cons rule rest induction =>
      rw [List.cons_append, applyAll, applyAll, induction]
      cases rule.apply settings text elements with
      | error fault => rfl
      | ok found =>
          cases applyAll settings text elements rest with
          | error fault => rfl
          | ok front =>
              cases applyAll settings text elements second with
              | error fault => rfl
              | ok back => simp only [List.append_assoc]

theorem apply_all_raised (complete : settings.MessagesComplete) (rules : List Rule)
    (fault : Fault) (raises : rules.findSome? (raised? text elements) = some fault) :
    applyAll settings text elements rules = .error fault := by
  induction rules with
  | nil => cases raises
  | cons rule rest induction =>
      rw [List.findSome?_cons] at raises
      rw [applyAll]
      cases first : rule.raised? text elements with
      | some raised =>
          rw [first] at raises
          cases raises
          rw [apply_raised settings text elements rule fault first]
      | none =>
          rw [first] at raises
          obtain ⟨found, applied, -⟩ := apply_quiet settings text elements complete rule first
          rw [applied, induction raises]

def ReportsAlone (rule : Rule) (violation : Violation) : Prop :=
  rule.type? = some violation.type ∧
    Verdict.ofRules settings text elements [rule] = .ok (.ofViolations [violation])

theorem reports_alone (rule : Rule) (violation : Violation)
    (applied : rule.apply settings text elements = .ok (some violation))
    (typed : rule.type? = some violation.type) :
    rule.ReportsAlone settings text elements violation := by
  refine ⟨typed, ?_⟩
  rw [Verdict.ofRules, applyAll, applied]
  rfl

theorem apply_all_quiet (complete : settings.MessagesComplete) (rules : List Rule)
    (quiet : rules.findSome? (raised? text elements) = none) :
    ∃ violations, applyAll settings text elements rules = .ok violations ∧
      List.Forall₂ (ReportsAlone settings text elements)
        (rules.filter (fails settings text elements)) violations := by
  induction rules with
  | nil => exact ⟨[], rfl, .nil⟩
  | cons rule rest induction =>
      rw [List.findSome?_eq_none_iff] at quiet
      obtain ⟨found, applied, failing, typed⟩ :=
        apply_quiet settings text elements complete rule (quiet rule List.mem_cons_self)
      obtain ⟨others, appliedOthers, reported⟩ := induction (by
        rw [List.findSome?_eq_none_iff]
        intro other member
        exact quiet other (List.mem_cons_of_mem rule member))
      rw [applyAll, applied, appliedOthers]
      cases found with
      | none =>
          refine ⟨others, rfl, ?_⟩
          rw [List.filter_cons_of_neg (by rw [← failing]; exact Bool.false_ne_true)]
          exact reported
      | some violation =>
          refine ⟨violation :: others, rfl, ?_⟩
          rw [List.filter_cons_of_pos failing.symm]
          exact .cons (reports_alone settings text elements rule violation applied
            (typed violation rfl)) reported

end Rule

theorem Check.summary_lookup (settings : Settings) (complete : settings.MessagesComplete)
    (text : String) (elements : List (Element Id)) (check : Check) :
    ∃ summary, summarize settings text elements = .ok summary ∧
      summary.lookup check = some (decide (check.find settings text elements = .passed)) := by
  refine ⟨_, summarize_eq settings complete text elements, ?_⟩
  cases check <;> rfl

namespace Rule

variable (settings : Settings) (text : String) (elements : List (Element Id))

theorem fails_check_iff (complete : settings.MessagesComplete) (check : Check)
    (own : Option String) :
    (Rule.check check own).fails settings text elements = true ↔
      ∃ summary, Check.summarize settings text elements = .ok summary ∧
        summary.lookup check = some false := by
  obtain ⟨summary, summarized, told⟩ := check.summary_lookup settings complete text elements
  rw [fails, summarized]
  constructor
  · intro failed
    refine ⟨summary, rfl, ?_⟩
    rw [told, decide_eq_false (of_decide_eq_true failed)]
  · intro reported
    obtain ⟨given, same, failed⟩ := reported
    rw [← Except.ok.inj same, told] at failed
    exact decide_eq_true (of_decide_eq_false (Option.some.inj failed))

theorem fails_custom_iff (predicate : Predicate) (own : Option String) :
    (custom predicate own).fails settings text elements = true ↔
      predicate text elements = .ok false := by
  rw [fails]
  cases predicate text elements with
  | error fault => simp
  | ok holds => simp

theorem fails_unknown (rule : Rule) (unknown : rule.isKnown = false) :
    rule.fails settings text elements = false := by
  cases rule with
  | unknown tag own predicate => rfl
  | _ => cases unknown

end Rule

theorem Verdict.of_rules_append (settings : Settings) (text : String)
    (elements : List (Element Id)) (first second : List Rule) :
    Verdict.ofRules settings text elements (first ++ second) =
      match Verdict.ofRules settings text elements first,
        Verdict.ofRules settings text elements second with
      | .error fault, _ => .error fault
      | .ok _, .error fault => .error fault
      | .ok front, .ok back => .ok (.ofViolations (front.violations ++ back.violations)) := by
  rw [Verdict.ofRules, Verdict.ofRules, Verdict.ofRules, Rule.apply_all_append]
  cases Rule.applyAll settings text elements first with
  | error fault => rfl
  | ok front => cases Rule.applyAll settings text elements second <;> rfl

namespace Verdict

variable (settings : Settings) (complete : settings.MessagesComplete) (text : String)
  (elements : List (Element Id)) (rules : List Rule)

include complete

theorem of_rules_raised (fault : Fault)
    (raises : rules.findSome? (Rule.raised? text elements) = some fault) :
    Verdict.ofRules settings text elements rules = .error fault := by
  rw [Verdict.ofRules, Rule.apply_all_raised settings text elements complete rules fault raises]
  rfl

theorem of_rules_quiet (quiet : rules.findSome? (Rule.raised? text elements) = none) :
    ∃ violations, Verdict.ofRules settings text elements rules = .ok (.ofViolations violations) ∧
      List.Forall₂ (Rule.ReportsAlone settings text elements)
        (rules.filter (Rule.fails settings text elements)) violations := by
  obtain ⟨violations, applied, reported⟩ :=
    Rule.apply_all_quiet settings text elements complete rules quiet
  refine ⟨violations, ?_, reported⟩
  rw [Verdict.ofRules, applied]
  rfl

theorem of_rules_fault_iff (fault : Fault) :
    Verdict.ofRules settings text elements rules = .error fault ↔
      rules.findSome? (Rule.raised? text elements) = some fault := by
  constructor
  · intro failed
    cases raises : rules.findSome? (Rule.raised? text elements) with
    | some raised =>
        rw [of_rules_raised settings complete text elements rules raised raises] at failed
        rw [Except.error.inj failed]
    | none =>
        obtain ⟨violations, judged, -⟩ :=
          of_rules_quiet settings complete text elements rules raises
        rw [judged] at failed
        cases failed
  · exact of_rules_raised settings complete text elements rules fault

theorem of_rules_reported (verdict : Verdict)
    (given : Verdict.ofRules settings text elements rules = .ok verdict) :
    (verdict.valid = true ↔ verdict.violations = []) ∧
      List.Forall₂ (Rule.ReportsAlone settings text elements)
        (rules.filter (Rule.fails settings text elements)) verdict.violations := by
  cases raises : rules.findSome? (Rule.raised? text elements) with
  | some raised =>
      rw [of_rules_raised settings complete text elements rules raised raises] at given
      cases given
  | none =>
      obtain ⟨violations, judged, reported⟩ :=
        of_rules_quiet settings complete text elements rules raises
      rw [judged] at given
      cases given
      exact ⟨List.isEmpty_iff, reported⟩

end Verdict

/-- Rules are judged one by one, in their order and all of them. The verdict on two lists in a
row follows from those on each; a run ends in a fault exactly if a predicate raises it before any
other; and if none does, the violations are those that the failing rules report alone, where a
built-in rule fails if the summary tells so, a custom one if its predicate does not hold, and one
of unknown type never. -/
theorem rules_judged_one_by_one (settings : Settings) (complete : settings.MessagesComplete)
    (text : String) (elements : List (Element Id)) :
    (∀ first second : List Rule,
      Verdict.ofRules settings text elements (first ++ second) =
        match Verdict.ofRules settings text elements first,
          Verdict.ofRules settings text elements second with
        | .error fault, _ => .error fault
        | .ok _, .error fault => .error fault
        | .ok front, .ok back => .ok (.ofViolations (front.violations ++ back.violations))) ∧
    (∀ (rules : List Rule) (fault : Fault),
      Verdict.ofRules settings text elements rules = .error fault ↔
        rules.findSome? (Rule.raised? text elements) = some fault) ∧
    (∀ (rules : List Rule) (verdict : Verdict),
      Verdict.ofRules settings text elements rules = .ok verdict →
        (verdict.valid = true ↔ verdict.violations = []) ∧
        List.Forall₂ (Rule.ReportsAlone settings text elements)
          (rules.filter (Rule.fails settings text elements)) verdict.violations) ∧
    (∀ check own, (Rule.check check own).fails settings text elements = true ↔
      ∃ summary, Check.summarize settings text elements = .ok summary ∧
        summary.lookup check = some false) ∧
    (∀ predicate own, (Rule.custom predicate own).fails settings text elements = true ↔
      predicate text elements = .ok false) ∧
    ∀ rule : Rule, rule.isKnown = false → rule.fails settings text elements = false := by
  exact ⟨Verdict.of_rules_append settings text elements,
    Verdict.of_rules_fault_iff settings complete text elements,
    Verdict.of_rules_reported settings complete text elements,
    Rule.fails_check_iff settings text elements complete,
    Rule.fails_custom_iff settings text elements, Rule.fails_unknown settings text elements⟩

def lenient : Settings :=
  (({} : Workspace).runAll
    [.command none (.assignSettings [("unknown_rule", .text "ignore")])]).2.settings

def failingRules : List Rule :=
  [.check .hasEquals (some "no equation"), .unknown (.text "odd") none none,
    .custom (Predicate.constant .null) none]

def raisingRules : List Rule :=
  [.custom (Predicate.fails "ValueError" "first") none,
    .custom (Predicate.fails "KeyError" "second") none]

theorem rules_judged_one_by_one_raising :
    lenient.MessagesComplete ∧
      Verdict.ofRules lenient "a" [] failingRules =
        .ok ⟨false, [⟨.text "no equation", .check .hasEquals, none⟩,
          ⟨.text "Custom validation failed", .custom, none⟩]⟩ ∧
      List.Forall₂ (Rule.ReportsAlone lenient "a" [])
        (failingRules.filter (Rule.fails lenient "a" []))
        [⟨.text "no equation", .check .hasEquals, none⟩,
          ⟨.text "Custom validation failed", .custom, none⟩] ∧
      (Rule.unknown (.text "odd") none none).fails lenient "a" [] = false ∧
      Verdict.ofRules lenient "a" [] (failingRules ++ raisingRules) =
        .error (.raised "ValueError" "first") := by
  have complete : lenient.MessagesComplete := messages_complete_of_standard lenient rfl
  have judged : Verdict.ofRules lenient "a" [] failingRules =
      .ok ⟨false, [⟨.text "no equation", .check .hasEquals, none⟩,
        ⟨.text "Custom validation failed", .custom, none⟩]⟩ := by rfl
  have raised : Verdict.ofRules lenient "a" [] raisingRules =
      .error (.raised "ValueError" "first") := by rfl
  obtain ⟨append, -, reported, -, -, unknown⟩ :=
    rules_judged_one_by_one lenient complete "a" []
  refine ⟨complete, judged, (reported _ _ judged).2, unknown _ rfl, ?_⟩
  rw [append, judged, raised]

end InlineFormula
