import InlineFormula.Proofs.LoadedVerdict
import InlineFormula.Proofs.ScopedRuns

/-!
Faults of reading and checking. Where there is a message for every type of rule, only a predicate
or a validator of the caller's own can cut a validation short. All options that a run can come to
are fit for use, also those that its open scopes keep, unless all attributes are replaced at once;
so no formula is refused.
-/

set_option autoImplicit false

namespace InlineFormula

namespace Rule

theorem violation_ok (settings : Settings) (complete : settings.MessagesComplete)
    (type : RuleType) (own : Option String) (position : Option Nat) :
    ∃ found, violation settings type own position = .ok found := by
  obtain ⟨message, chosen⟩ := choose_message_ok settings complete type own
  unfold violation
  rw [chosen]
  exact ⟨_, rfl⟩

theorem apply_check (settings : Settings) (complete : settings.MessagesComplete) (text : String)
    (elements : List (Element Id)) (check : Check) (own : Option String) :
    ∃ found, (Rule.check check own).apply settings text elements = .ok found ∧
      found.isNone = decide (check.find settings text elements = .passed) := by
  rw [apply]
  cases check.find settings text elements with
  | passed => exact ⟨none, rfl, rfl⟩
  | failed position =>
      obtain ⟨found, made⟩ := violation_ok settings complete (.check check) own position
      dsimp only
      rw [made]
      exact ⟨some found, rfl, rfl⟩

theorem apply_fault (settings : Settings) (complete : settings.MessagesComplete) (text : String)
    (elements : List (Element Id)) (rule : Rule) (fault : Fault)
    (failed : rule.apply settings text elements = .error fault) :
    ∃ predicate own, rule = .custom predicate own ∧ predicate text elements = .error fault := by
  cases rule with
  | check check own =>
      obtain ⟨found, applied, -⟩ := apply_check settings complete text elements check own
      rw [applied] at failed
      cases failed
  | custom predicate own =>
      refine ⟨predicate, own, rfl, ?_⟩
      rw [apply] at failed
      cases judged : predicate text elements with
      | error raised =>
          rw [judged] at failed
          cases failed
          rfl
      | ok holds =>
          obtain ⟨found, made⟩ := violation_ok settings complete .custom own none
          rw [judged, made] at failed
          cases holds <;> cases failed
  | unknown tag own predicate => cases failed

/-- The fault that ends a run of rules is that of a predicate among them. -/
theorem apply_all_fault (settings : Settings) (complete : settings.MessagesComplete)
    (text : String) (elements : List (Element Id)) (rules : List Rule) (fault : Fault)
    (failed : applyAll settings text elements rules = .error fault) :
    ∃ predicate own, Rule.custom predicate own ∈ rules ∧
      predicate text elements = .error fault := by
  induction rules with
  | nil => cases failed
  | cons rule rest induction =>
      unfold applyAll at failed
      cases first : rule.apply settings text elements with
      | error raised =>
          rw [first] at failed
          cases failed
          obtain ⟨predicate, own, rfl, raises⟩ :=
            apply_fault settings complete text elements rule fault first
          exact ⟨predicate, own, List.mem_cons_self, raises⟩
      | ok found =>
          cases others : applyAll settings text elements rest with
          | ok violations =>
              rw [first, others] at failed
              cases failed
          | error raised =>
              rw [first, others] at failed
              cases failed
              obtain ⟨predicate, own, among, raises⟩ := induction others
              exact ⟨predicate, own, List.mem_cons_of_mem rule among, raises⟩

/-- Built-in rules, and rules that were kept although their type is not known. -/
def AsksNobody (rule : Rule) : Prop :=
  (∃ check own, rule = .check check own) ∨ rule.isKnown = false

theorem not_custom_of_asks_nobody (predicate : Predicate) (own : Option String) :
    ¬(custom predicate own).AsksNobody := by
  rintro (⟨check, other, same⟩ | unknown)
  · cases same
  · cases unknown

end Rule

theorem Verdict.of_rules_ok (settings : Settings) (complete : settings.MessagesComplete)
    (text : String) (elements : List (Element Id)) (rules : List Rule)
    (quiet : ∀ rule ∈ rules, rule.AsksNobody) :
    ∃ verdict, Verdict.ofRules settings text elements rules = .ok verdict := by
  unfold Verdict.ofRules
  cases applied : Rule.applyAll settings text elements rules with
  | ok violations => exact ⟨_, rfl⟩
  | error fault =>
      obtain ⟨predicate, own, among, -⟩ :=
        Rule.apply_all_fault settings complete text elements rules fault applied
      exact absurd (quiet _ among) (Rule.not_custom_of_asks_nobody predicate own)

theorem Document.validate_ok (settings : Settings) (complete : settings.MessagesComplete)
    (document : Document) (configuration : Configuration)
    (unset : configuration.validator = none)
    (quiet : ∀ rule ∈ configuration.rules, rule.AsksNobody) :
    ∃ verdict, (document.validate settings configuration).result = .ok verdict := by
  rw [validate_result, judge_rules settings configuration unset]
  exact Verdict.of_rules_ok settings complete document.text document.elements
    configuration.rules quiet

theorem Check.summarize_eq (settings : Settings) (complete : settings.MessagesComplete)
    (text : String) (elements : List (Element Id)) :
    Check.summarize settings text elements =
      .ok (Check.all.map fun check =>
        (check, decide (check.find settings text elements = .passed))) := by
  have each : (fun check : Check =>
      ((Rule.check check none).apply settings text elements).map
        fun found => (check, found.isNone)) =
      fun check => pure (check, decide (check.find settings text elements = .passed)) := by
    funext check
    obtain ⟨found, applied, passes⟩ :=
      Rule.apply_check settings complete text elements check none
    rw [applied, ← passes]
    rfl
  unfold Check.summarize
  rw [each, List.mapM_pure]
  rfl

namespace Scopes

structure Usable (scopes : Scopes) : Prop where
  current : scopes.current.Usable
  kept : ∀ kept ∈ scopes.kept, ∀ entry ∈ kept, Setting.Fits entry.1 entry.2

theorem usable_standard : ({} : Scopes).Usable := ⟨Options.usable_standard, nofun⟩

theorem enter_usable (scopes : Scopes) (usable : scopes.Usable) (pairs : List (String × Datum))
    (plain : ∀ pair ∈ pairs, Setting.Plain pair) : (scopes.enter pairs).1.Usable := by
  rw [enter]
  rcases overridden : scopes.current.override pairs with ⟨inner, fault | kept⟩
  · exact ⟨(usable.current.override pairs plain inner _ overridden).1, usable.kept⟩
  · obtain ⟨inside, fits⟩ := usable.current.override pairs plain inner _ overridden
    exact ⟨inside, List.forall_mem_cons.mpr ⟨fits kept rfl, usable.kept⟩⟩

theorem leave_usable (scopes : Scopes) (usable : scopes.Usable) : scopes.leave.1.Usable := by
  rw [leave]
  have fits := usable.kept
  cases kept : scopes.kept with
  | nil => exact usable
  | cons innermost outer =>
      rw [kept, List.forall_mem_cons] at fits
      exact ⟨usable.current.restore innermost fits.1, fits.2⟩

end Scopes

def Command.given : Command → List (String × Datum)
  | assignSettings pairs | enterScope pairs => pairs
  | _ => []

theorem Command.move_scopes_usable (scopes : Scopes) (usable : scopes.Usable) (command : Command)
    (plain : ∀ pair ∈ command.given, Setting.Plain pair) :
    (command.moveScopes scopes).Usable := by
  cases command with
  | assignSettings pairs => exact ⟨usable.current.assign pairs plain, usable.kept⟩
  | enterScope pairs => exact scopes.enter_usable usable pairs plain
  | leaveScope failing => exact scopes.leave_usable usable
  | _ => exact usable

def Step.AllPlain (steps : List Step) : Prop :=
  AllOnly (fun command => ∀ pair ∈ command.given, Setting.Plain pair) steps ∧
    AllBring (fun pairs => ∀ pair ∈ pairs, Setting.Plain pair) steps

namespace Workspace

theorem usable_lasting :
    Lasting (fun command => ∀ pair ∈ command.given, Setting.Plain pair)
      (fun pairs => ∀ pair ∈ pairs, Setting.Plain pair)
      (fun workspace => workspace.scopes.Usable) where
  anew _ usable := usable
  inside workspace pairs inner answer plain overridden usable :=
    ⟨(usable.current.override pairs plain inner answer overridden).1, usable.kept⟩
  outside workspace after pairs inner kept plain overridden usable usableAfter :=
    ⟨usableAfter.current.restore kept
      ((usable.current.override pairs plain inner _ overridden).2 kept rfl), usableAfter.kept⟩
  performed workspace command plain usable := by
    rw [Action.perform_scopes]
    exact command.move_scopes_usable _ usable plain

theorem run_usable (column : Column) (steps : List Step) (plain : Step.AllPlain steps) :
    (({ column } : Workspace).runAll steps).2.scopes.Usable :=
  usable_lasting.run_all steps { column } plain.1 plain.2 Scopes.usable_standard

variable (workspace : Workspace)

theorem perform_parse (usable : workspace.options.Usable) (text : String) :
    (workspace.perform none (.parse text)).1.answer =
      .ok (.elements (Formula.parseNumbered workspace.settings workspace.drawn text)) := by
  simp only [perform_answer, Action.perform, Action.parse, Action.run_map, Action.run_bind,
    Action.run_options, Action.run_drawing, fresh_options, usable.read_formula_eq]
  rfl

theorem perform_write (source : Source) (elements : List (Element Id)) (last : Nat)
    (built : source.build workspace.options workspace.drawn = (.ok elements, last)) :
    (workspace.perform none (.write source)).1.answer = .ok (.text (Formula.write elements)) := by
  simp only [perform_answer, Action.perform, Action.run_bind, Action.run_build_elements,
    fresh_options, fresh_drawn, built, Action.run_pure]

end Workspace

structure Options.Held (options : Options) : Prop where
  functionNames : ∃ names : List String,
    options.value "function_names" = some (.list (names.map .text)) ∧
      ∀ name ∈ names, name.toList ≠ [] ∧ ∀ char ∈ name.toList, char.isAlpha = true
  brackets : ∃ pairs : String,
    options.value "brackets" = some (.text pairs) ∧ pairs.length % 2 = 0
  unknownRule : options.value "unknown_rule" = some (.text "raise") ∨
    options.value "unknown_rule" = some (.text "ignore")
  messages : ∃ entries : Messages, options.value "messages" = some (.object entries) ∧
    ∀ type : RuleType, (entries.lookup type.tag).isSome = true

theorem Options.Usable.held {options : Options} (usable : options.Usable) : options.Held where
  functionNames := by
    obtain ⟨_, there, names, rfl, words⟩ := usable "function_names" (by decide)
    exact ⟨names, there, fun name known => function_name_letters name (words name known)⟩
  brackets := by
    obtain ⟨_, there, pairs, rfl, paired⟩ := usable "brackets" (by decide)
    exact ⟨pairs, there, paired⟩
  unknownRule := by
    obtain ⟨_, there, policy, rfl⟩ := usable "unknown_rule" (by decide)
    cases policy with
    | reject => exact .inl there
    | ignore => exact .inr there
  messages := by
    obtain ⟨_, there, entries, rfl, complete⟩ := usable "messages" (by decide)
    exact ⟨entries, there, complete⟩

/-- Whatever is set in a run one by one and however that fails, the options in force are fit for
use, and under them every text is read, all elements are written, and all checks come to a
verdict. -/
theorem formulas_never_refused (column : Column) (steps : List Step)
    (plain : Step.AllPlain steps) :
    let workspace := (({ column } : Workspace).runAll steps).2
    let settings := workspace.settings
    workspace.options.Held ∧
    (∀ text, ∃ elements,
      (workspace.perform none (.parse text)).1.answer = .ok (.elements elements)) ∧
    (∀ source elements last,
      source.build workspace.options workspace.drawn = (.ok elements, last) →
        (workspace.perform none (.write source)).1.answer =
          .ok (.text (Formula.write elements))) ∧
    (∀ (text : String) (elements : List (Element Id)), ∃ summary,
      Check.summarize settings text elements = .ok summary ∧
        summary.map Prod.fst = Check.all) ∧
    ∀ rules : List Rule, (∀ rule ∈ rules, rule.AsksNobody) →
      (∀ text elements, ∃ verdict, Verdict.ofRules settings text elements rules = .ok verdict) ∧
      ∀ (document : Document) (configuration : Configuration),
        configuration.rules = rules → configuration.validator = none →
          ∃ verdict, (document.validate settings configuration).result = .ok verdict := by
  intro workspace settings
  have usable := (Workspace.run_usable column steps plain).current
  have complete := usable.complete
  refine ⟨usable.held, ?_, workspace.perform_write, ?_, ?_⟩
  · intro text
    exact ⟨_, workspace.perform_parse usable text⟩
  · intro text elements
    refine ⟨_, Check.summarize_eq settings complete text elements, ?_⟩
    rw [List.map_map]
    exact List.map_id _
  · intro rules quiet
    constructor
    · intro text elements
      exact Verdict.of_rules_ok settings complete text elements rules quiet
    · intro document configuration same unset
      rw [← same] at quiet
      exact document.validate_ok settings complete configuration unset quiet

/-- A change that fails behind an absent message, and scopes of which one does not open. -/
def partlySettingRun : List Step :=
  [.command none (.assignSettings
      [("messages", .object [("has-equals", .null)]), ("colour", .text "red")]),
   .command none (.enterScope [("operators", .text "+"), ("brackets", .text "(")]),
   .command none (.enterScope [("function_names", .list [.text "exp"])])]

def partlySet : Workspace := (({} : Workspace).runAll partlySettingRun).2

def quietRules : List Rule := [.check .hasEquals none, .unknown (.text "odd") none none]

theorem formulas_never_refused_partly_set :
    Step.AllPlain partlySettingRun ∧ (∀ rule ∈ quietRules, rule.AsksNobody) ∧
      (Source.drafts [⟨.text "variable", "x", [], none⟩]).build partlySet.options
        partlySet.drawn = (.ok [⟨.letter, "x", [], "fe-1"⟩], 1) ∧
      (partlySet.perform none (.write (.drafts [⟨.text "variable", "x", [], none⟩]))).1.answer =
        .ok (.text (Formula.write [(⟨.letter, "x", [], "fe-1"⟩ : Element Id)])) ∧
      (∃ verdict, Verdict.ofRules partlySet.settings "a" [] quietRules = .ok verdict) ∧
      ∃ verdict, (({} : Document).validate partlySet.settings { rules := quietRules }).result =
        .ok verdict := by
  have plain : Step.AllPlain partlySettingRun := by
    refine ⟨⟨?_, ?_, ?_, trivial⟩, nofun, nofun, nofun, trivial⟩ <;>
      simp only [Step.Only, Command.given, List.forall_mem_cons, Setting.Plain] <;>
      simp
  have quiet : ∀ rule ∈ quietRules, rule.AsksNobody := by
    intro rule member
    rcases List.mem_cons.mp member with rfl | later
    · exact .inl ⟨.hasEquals, none, rfl⟩
    · rw [List.mem_singleton.mp later]
      exact .inr rfl
  have built : (Source.drafts [⟨.text "variable", "x", [], none⟩]).build partlySet.options
      partlySet.drawn = (.ok [⟨.letter, "x", [], "fe-1"⟩], 1) := rfl
  obtain ⟨-, -, written, -, judged⟩ := formulas_never_refused .unbounded partlySettingRun plain
  refine ⟨plain, quiet, built, written _ _ _ built, ?_, ?_⟩
  · exact (judged quietRules quiet).1 "a" []
  · exact (judged quietRules quiet).2 {} { rules := quietRules } rfl rfl

/-- All attributes were replaced, and with them the messages. -/
theorem formulas_sometimes_refused :
    ¬∀ (steps : List Step) (text : String) (rules : List Rule),
      (∀ rule ∈ rules, rule.AsksNobody) →
        ∃ verdict, Verdict.ofRules (({} : Workspace).runAll steps).2.settings text [] rules =
          .ok verdict := by
  intro always
  have judged := always
    [.command none (.assignSettings [("__dict__", .object [("messages", .object [])])])] "a"
    [.check .hasEquals none] (by simp [Rule.AsksNobody])
  obtain ⟨verdict, impossible⟩ := judged
  cases impossible

end InlineFormula
