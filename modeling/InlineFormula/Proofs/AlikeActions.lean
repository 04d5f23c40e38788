import InlineFormula.Proofs.AlikeWorkspaces
import InlineFormula.Proofs.CommandEffects

/-!
Actions that differ in identifiers only. Run on two workspaces that are alike but for identifiers
and their number, a command gives answers that are alike or one fault, and leaves workspaces that
are alike.
-/

set_option autoImplicit false

namespace InlineFormula

namespace DocumentCommand

def IgnoresIds : DocumentCommand → Prop
  | create _ (.own _ rules validator) =>
      (∀ rule ∈ rules, rule.IgnoresIds) ∧
        ∀ given, validator = some given → Validator.IgnoresIds given
  | find finder => Finder.IgnoresIds finder
  | setRules rules => ∀ rule ∈ rules, rule.IgnoresIds
  | setValidator validator => ∀ given, validator = some given → Validator.IgnoresIds given
  | _ => True

def withoutIds : DocumentCommand → DocumentCommand
  | insert draft index => insert draft.withoutIds index
  | update index kind value children => update index kind value (children.map Source.withoutIds)
  | setElements source => setElements source.withoutIds
  | touch access index path value child =>
      touch access index path value (child.map Draft.withoutIds)
  | command => command

theorem ignores_ids_without_ids (command : DocumentCommand) :
    command.withoutIds.IgnoresIds ↔ command.IgnoresIds := by
  cases command <;> rfl

end DocumentCommand

namespace Command

def IgnoresIds : Command → Prop
  | validate _ _ rules _ => ∀ rule ∈ rules, rule.IgnoresIds
  | document _ command => command.IgnoresIds
  | _ => True

def withoutIds : Command → Command
  | write source => write source.withoutIds
  | inspect draft => inspect draft.withoutIds
  | compare left right => compare left.withoutIds right.withoutIds
  | validate text elements rules tabulate =>
      validate text (elements.map Source.withoutIds) rules tabulate
  | summarize text elements => summarize text (elements.map Source.withoutIds)
  | checkOperators source => checkOperators source.withoutIds
  | checkOperands source => checkOperands source.withoutIds
  | tabulateElements source => tabulateElements source.withoutIds
  | document name command => document name command.withoutIds
  | command => command

theorem ignores_ids_without_ids (command : Command) :
    command.withoutIds.IgnoresIds ↔ command.IgnoresIds := by
  cases command with
  | document name command => exact command.ignores_ids_without_ids
  | _ => rfl

end Command

/-- Answers as they would be had all identifiers been drawn from the start; tables leave them
out. -/
def Answer.renumbered : Answer → Answer
  | .elements found => .elements (Element.allRenumbered found)
  | .element found => .element (found.map Element.renumbered)
  | .inspected found copy => .inspected found.renumbered copy.renumbered
  | .table shown => .table (shown.without "id")
  | .id _ => .id (Id.ofNat 1)
  | answer => answer

def Answer.Alike (left right : Answer) : Prop := left.renumbered = right.renumbered

theorem Answer.element_alike {left right : Option (Element Id)}
    (same : left.map Element.shape = right.map Element.shape) :
    (Answer.element left).Alike (.element right) := by
  have renumbered (given : Option (Element Id)) :
      given.map Element.renumbered = (given.map Element.shape).map (Element.numbered 0) := by
    rw [Option.map_map]
    rfl
  rw [Answer.Alike, Answer.renumbered, Answer.renumbered, renumbered, renumbered, same]

theorem Answer.table_alike {left right : List (Element Id)}
    (same : Element.shapes left = Element.shapes right) :
    (Answer.table (.ofElements left)).Alike (.table (.ofElements right)) := by
  rw [Answer.Alike, Answer.renumbered, Answer.renumbered, Table.of_elements_without_ids,
    Table.of_elements_without_ids, same]

namespace Action

section Rules

variable {α β γ δ : Type} {same : α → β → Prop} {kept : γ → δ → Prop}

/-- Run on workspaces that are alike, both actions give results that agree and leave workspaces
that are alike. -/
def Alike (same : α → β → Prop) (left : Action α) (right : Action β) : Prop :=
  ∀ before other : Workspace, before.Alike other →
    Agree same (left.runOn before).1 (right.runOn other).1 ∧
      (left.runOn before).2.Alike (right.runOn other).2

theorem alike_pure {value : α} {other : β} (agree : same value other) :
    Alike same (pure value) (pure other) :=
  fun _ _ alike => ⟨agree, alike⟩

theorem alike_bind {left : Action α} {right : Action β} {next : α → Action γ}
    {nextRight : β → Action δ} (first : Alike same left right)
    (rest : ∀ value other, same value other → Alike kept (next value) (nextRight other)) :
    Alike kept (left >>= next) (right >>= nextRight) := by
  intro before other alike
  obtain ⟨agree, between⟩ := first before other alike
  rw [run_bind, run_bind]
  generalize left.runOn before = ran at agree between ⊢
  generalize right.runOn other = ranRight at agree between ⊢
  rcases ran with ⟨result, after⟩
  rcases ranRight with ⟨otherResult, otherAfter⟩
  -- Both stop with one fault, or both go on from workspaces that are alike.
  obtain ⟨fault, ⟨⟩, ⟨⟩⟩ | ⟨value, otherValue, ⟨⟩, ⟨⟩, agree⟩ := agree.cases
  · exact ⟨rfl, between⟩
  · exact rest value otherValue agree after otherAfter between

theorem alike_map {left : Action α} {right : Action β} (first : Alike same left right)
    (change : α → γ) (changeRight : β → δ)
    (keeps : ∀ value other, same value other → kept (change value) (changeRight other)) :
    Alike kept (change <$> left) (changeRight <$> right) := by
  intro before other alike
  obtain ⟨agree, between⟩ := first before other alike
  rw [run_map, run_map]
  exact ⟨agree.map change changeRight keeps, between⟩

theorem alike_some {shown : α → γ} {shownRight : β → γ} {left : Action α} {right : Action β}
    (first : Alike (fun value other => shown value = shownRight other) left right) :
    Alike (fun value other => value.map shown = other.map shownRight) (some <$> left)
      (some <$> right) :=
  alike_map first some some fun _ _ => congrArg some

theorem alike_answer (answer : α → Answer) {left right : Action α} (first : Alike Eq left right) :
    Alike Answer.Alike (answer <$> left) (answer <$> right) := by
  refine alike_map first answer answer ?_
  rintro value _ rfl
  rfl

theorem alike_of_except {left : Except Fault α} {right : Except Fault β}
    (agree : Agree same left right) : Alike same (ofExcept left) (ofExcept right) := by
  intro before other alike
  rw [run_of_except, run_of_except]
  exact ⟨agree, alike⟩

theorem alike_throw (fault : Fault) :
    Alike same (throw fault : Action α) (throw fault : Action β) :=
  fun _ _ alike => ⟨rfl, alike⟩

theorem alike_get : Alike Workspace.Alike get get :=
  fun _ _ alike => ⟨alike, alike⟩

theorem alike_modify {change changeRight : Workspace → Workspace}
    (keeps : ∀ before other : Workspace, before.Alike other →
      (change before).Alike (changeRight other)) :
    Alike Eq (modify change) (modify changeRight) :=
  fun before other alike => ⟨rfl, keeps before other alike⟩

theorem alike_options : Alike Eq options options :=
  fun _ _ alike => ⟨alike.options, alike⟩

theorem alike_settings : Alike Eq settings settings :=
  fun _ _ alike => ⟨alike.settings, alike⟩

/-- How many identifiers were drawn before does not show in what is built. -/
theorem alike_drawing {draw : Nat → Draft.Drawing α} {drawRight : Nat → Draft.Drawing β}
    (agree : ∀ drawn other, Agree same (draw drawn).1 (drawRight other).1) :
    Alike same (drawing draw) (drawing drawRight) := by
  intro before other alike
  rw [run_drawing, run_drawing]
  exact ⟨agree before.drawn other.drawn, alike.redrawn _ _⟩

end Rules

section Parts

theorem alike_parse (text : String) :
    Alike (fun elements others => Element.shapes elements = Element.shapes others) (parse text)
      (parse text) := by
  refine alike_bind alike_options ?_
  rintro options _ rfl
  exact alike_drawing fun drawn other => options.read_formula_alike drawn other text

theorem alike_readable (text : String) : Alike Eq (readable text) (readable text) := by
  refine alike_bind alike_options ?_
  rintro options _ rfl
  exact alike_drawing fun drawn other => options.readable_alike drawn other text

theorem alike_copy {element other : Element Id} (same : element.shape = other.shape) :
    Alike (fun copy otherCopy => copy.shape = otherCopy.shape) (copy element) (copy other) := by
  refine alike_drawing fun drawn otherDrawn => ?_
  show (element.copied drawn).shape = (other.copied otherDrawn).shape
  rw [Element.copied_shape, Element.copied_shape, same]

theorem alike_build_element (draft : Draft) :
    Alike (fun element plain => element.shape = plain.shape) (buildElement draft)
      (buildElement draft.withoutIds) :=
  alike_drawing fun drawn other => draft.build_without_ids drawn other

theorem alike_build_elements (source : Source) :
    Alike (fun elements plains => Element.shapes elements = Element.shapes plains)
      (buildElements source) (buildElements source.withoutIds) := by
  intro before other alike
  rw [run_build_elements, run_build_elements, alike.options]
  exact ⟨source.build_without_ids _ before.drawn other.drawn, alike.redrawn _ _⟩

theorem alike_elements_of (text : String) (given : Option Source) :
    Alike (fun elements plains => Element.shapes elements = Element.shapes plains)
      (elementsOf text given) (elementsOf text (given.map Source.withoutIds)) := by
  cases given with
  | none => exact alike_parse text
  | some source => exact alike_build_elements source

theorem alike_warn (warning : Option Warning) : Alike Eq (warn warning) (warn warning) := by
  refine alike_modify fun before other alike => ?_
  exact { alike with warnings := congrArg (· ++ warning.toList) alike.warnings }

theorem alike_note (entries : List LogEntry) : Alike Eq (note entries) (note entries) := by
  refine alike_modify fun before other alike => ?_
  exact { alike with log := congrArg (· ++ entries) alike.log }

theorem alike_build_rule (draft : RuleDraft) :
    Alike (fun rule other => rule = other ∧ (draft.IgnoresIds → rule.IgnoresIds))
      (buildRule draft) (buildRule draft) := by
  refine alike_bind alike_settings ?_
  rintro settings _ rfl
  have built : Agree (fun rule other => rule = other ∧ (draft.IgnoresIds → rule.IgnoresIds))
      (Rule.build settings draft) (Rule.build settings draft) := by
    cases given : Rule.build settings draft with
    | error fault => rfl
    | ok rule =>
        exact ⟨rfl, fun ignores => Rule.build_ignores_ids settings draft rule ignores given⟩
  refine alike_bind (alike_of_except built) ?_
  rintro rule _ ⟨rfl, kept⟩
  exact alike_bind (alike_warn rule.warning?) fun _ _ _ => alike_pure ⟨rfl, kept⟩

theorem alike_build_rules (drafts : List RuleDraft)
    (ignores : ∀ draft ∈ drafts, draft.IgnoresIds) :
    Alike (fun rules others => rules = others ∧ ∀ rule ∈ rules, rule.IgnoresIds)
      (buildRules drafts) (buildRules drafts) := by
  rw [buildRules]
  induction drafts with
  | nil => exact alike_pure ⟨rfl, by simp⟩
  | cons draft rest induction =>
      rw [List.forall_mem_cons] at ignores
      rw [List.mapM_cons]
      refine alike_bind (alike_build_rule draft) ?_
      rintro rule _ ⟨rfl, first⟩
      refine alike_bind (induction ignores.2) ?_
      rintro rules _ ⟨rfl, others⟩
      exact alike_pure ⟨rfl, List.forall_mem_cons.mpr ⟨first ignores.1, others⟩⟩

theorem alike_validate (text : String) (rules : List Rule)
    (ignores : ∀ rule ∈ rules, rule.IgnoresIds) {elements others : List (Element Id)}
    (same : Element.shapes elements = Element.shapes others) :
    Alike Eq (validate text elements rules) (validate text others rules) := by
  refine alike_bind alike_settings ?_
  rintro settings _ rfl
  rw [Verdict.of_rules_same settings text same rules ignores]
  refine alike_bind (alike_of_except (Agree.refl _)) ?_
  rintro verdict _ rfl
  exact alike_bind (alike_note _) fun _ _ _ => alike_pure rfl

theorem alike_tabulate (verdict : Verdict) : Alike Eq (tabulate verdict) (tabulate verdict) := by
  refine alike_bind alike_get fun before other alike => ?_
  rw [alike.column]
  split
  · exact alike_pure rfl
  · exact alike_bind (alike_warn _) fun _ _ _ => alike_throw _

theorem alike_rescope (change : Scopes → Scopes × Option Fault) :
    Alike Eq (rescope change) (rescope change) := by
  intro before other alike
  rw [run_rescope, run_rescope, alike.scopes]
  exact ⟨Agree.refl _, alike.rescoped _⟩

theorem alike_holding (name : String) : Alike Holding.Alike (holding name) (holding name) := by
  intro before other alike
  rw [run_holding, run_holding]
  obtain ⟨first, second⟩ | ⟨held, otherHeld, first, second, same⟩ := alike.find name
  · rw [first, second]
    exact ⟨rfl, alike⟩
  · rw [first, second]
    exact ⟨same, alike⟩

theorem alike_require (name : String) (command : DocumentCommand) :
    Alike Eq (require name command) (require name command.withoutIds) := by
  cases command with
  | create text source => exact alike_pure rfl
  | _ => exact alike_bind (alike_holding name) fun _ _ _ => alike_pure rfl

theorem alike_keep {α : Type} {same : α → α → Prop} (name : String) {holding other : Holding}
    (held : holding.Alike other) {outcome otherOutcome : Outcome α}
    (alike : outcome.Alike same otherOutcome) :
    Alike same (keep name holding outcome) (keep name other otherOutcome) := by
  refine alike_bind (alike_modify fun before after workspaces => ?_) fun _ _ _ => ?_
  · exact workspaces.put name ⟨alike.document, held.configuration⟩
  · rw [alike.log]
    exact alike_bind (alike_note _) fun _ _ _ => alike_of_except alike.result

theorem alike_edit (name : String) {edit other : Edit} (alike : edit.Alike other) :
    Alike EditAnswer.Alike (Action.edit name edit) (Action.edit name other) := by
  refine alike_bind alike_get fun before otherBefore workspaces => ?_
  refine alike_bind (alike_holding name) fun holding otherHolding held => ?_
  obtain ⟨configuration, ignores⟩ := workspaces.configuration held
  have edited := Document.edit_alike before.settings _ ignores held.document before.drawn
    otherBefore.drawn alike
  rw [← workspaces.settings, ← configuration]
  refine alike_bind (alike_modify fun _ _ between => between.redrawn _ _) fun _ _ _ => ?_
  exact alike_keep name held edited

theorem alike_configure (name : String) (change : Configuration → Configuration)
    (keeps : ∀ configuration, configuration.IgnoresIds → (change configuration).IgnoresIds) :
    Alike Eq (configure name change) (configure name change) := by
  refine alike_bind (alike_holding name) fun holding other held => ?_
  rw [held.configuration]
  refine alike_modify fun before otherBefore alike => ?_
  refine { alike with configurations := ?_, ignores := ?_ }
  · exact congrArg (List.modify · other.configuration change) alike.configurations
  · intro configuration member
    obtain ⟨place, there⟩ := List.mem_iff_getElem?.mp member
    rw [List.getElem?_modify] at there
    obtain ⟨given, found, rfl⟩ := Option.map_eq_some_iff.mp there
    have before := alike.ignores given (List.mem_of_getElem? found)
    split
    · exact keeps given before
    · exact before

theorem answer_of_alike {left right : EditAnswer} (alike : left.Alike right) :
    (answerOf left).Alike (answerOf right) := by
  cases alike with
  | done => rfl
  | stored left right same => exact Answer.element_alike (congrArg some same)
  | found present => rfl

theorem alike_start (name text : String) (number : Nat) (configuration : Configuration)
    (added : List Configuration) (ignores : configuration.IgnoresIds)
    (new : ∀ other ∈ added, other.IgnoresIds) :
    Alike Eq (start name text number configuration added)
      (start name text number configuration added) := by
  refine alike_bind (alike_readable text) fun _ _ _ => ?_
  refine alike_bind alike_get fun before otherBefore alike => ?_
  have started := Document.start_alike before.settings configuration ignores before.drawn
    otherBefore.drawn text
  rw [← alike.settings]
  generalize Document.start before.settings configuration before.drawn text = ran at started ⊢
  generalize Document.start before.settings configuration otherBefore.drawn text = ranRight
    at started ⊢
  rcases ran with ⟨outcome, drawn⟩
  rcases ranRight with ⟨otherOutcome, otherDrawn⟩
  refine alike_bind (alike_modify fun _ _ between => between.redrawn _ _) fun _ _ _ => ?_
  rw [started.log]
  refine alike_bind (alike_note _) fun _ _ _ => ?_
  refine alike_bind (alike_of_except started.result) fun _ _ _ => ?_
  refine alike_modify fun after otherAfter between => ?_
  refine Workspace.Alike.put ?_ name ⟨started.document, rfl⟩
  refine { between with configurations := ?_, ignores := ?_ }
  · exact congrArg (· ++ added) between.configurations
  · intro held member
    rcases List.mem_append.mp member with earlier | late
    · exact between.ignores held earlier
    · exact new held late

theorem alike_create (name text : String) (source : ConfigurationSource)
    (ignores : (DocumentCommand.create text source).IgnoresIds) :
    Alike Eq (create name text source) (create name text source) := by
  cases source with
  | sharedWith shared =>
      refine alike_bind (alike_holding shared) fun holding other held => ?_
      refine alike_bind alike_get fun before otherBefore alike => ?_
      obtain ⟨same, kept⟩ := alike.configuration held
      rw [← same, ← held.configuration]
      exact alike_start name text holding.configuration (before.configuration holding) [] kept
        (by simp)
  | own auto drafts validator =>
      refine alike_bind (alike_build_rules drafts ignores.1) ?_
      rintro rules _ ⟨rfl, kept⟩
      refine alike_bind alike_get fun before otherBefore alike => ?_
      have configured : Configuration.IgnoresIds { auto, rules, validator } := ⟨kept, ignores.2⟩
      rw [← alike.configurations]
      exact alike_start name text before.configurations.length { auto, rules, validator }
        [{ auto, rules, validator }] configured (by simpa using configured)

theorem alike_hand_back (name : String) {holding other : Holding} (held : holding.Alike other)
    (place : Nat) (path : List Int) {touch otherTouch : Touch} (alike : touch.Alike otherTouch) :
    Alike Answer.Alike (handBack name holding place path touch)
      (handBack name other place path otherTouch) := by
  refine alike_bind (alike_of_except (Document.touch_alike held.document place path alike))
    fun touched otherTouched same => ?_
  exact alike_bind (alike_modify fun _ _ between => between.put name ⟨same, held.configuration⟩)
    fun _ _ _ => alike_pure rfl

theorem alike_touch (name : String) (access : Access) (index : Int) (path : List Int)
    (value : Option String) (child : Option Draft) :
    Alike Answer.Alike (touch name access index path value child)
      (touch name access index path value (child.map Draft.withoutIds)) := by
  refine alike_bind (alike_holding name) fun before other held => ?_
  rw [Document.access_place_alike held.document]
  refine alike_bind (alike_of_except (Agree.refl _)) ?_
  rintro (_ | place) _ rfl
  · exact alike_pure rfl
  · have walked : Touch.Alike {} {} := ⟨rfl, rfl⟩
    have finish (given plain : Option (Element Id))
        (same : given.map Element.shape = plain.map Element.shape) := by
      have given : Touch.Alike ⟨value, given⟩ ⟨value, plain⟩ := ⟨rfl, same⟩
      exact alike_hand_back name held place path (given.reaching access path.length)
    refine alike_bind (alike_of_except (Document.touch_alike held.document place path walked))
      fun _ _ _ => ?_
    cases child with
    | none => exact finish none none rfl
    | some draft =>
        exact alike_bind (alike_some (alike_build_element draft)) finish

theorem alike_perform_on (name : String) (command : DocumentCommand)
    (ignores : command.IgnoresIds) :
    Alike Answer.Alike (performOn name command) (performOn name command.withoutIds) := by
  have edits {edit other : Edit} (alike : edit.Alike other) :
      Alike Answer.Alike (answerOf <$> Action.edit name edit)
        (answerOf <$> Action.edit name other) :=
    alike_map (alike_edit name alike) answerOf answerOf fun _ _ => answer_of_alike
  cases command with
  | create text source =>
      exact alike_bind (alike_create name text source ignores) fun _ _ _ => alike_pure rfl
  | setText text =>
      exact alike_bind (alike_readable text) fun _ _ _ => edits (.setText text)
  | insert draft index =>
      exact alike_bind (alike_build_element draft) fun element plain same =>
        edits (.insert element plain index same)
  | update index kind value children =>
      cases children with
      | none => exact edits (.update index kind value none none rfl)
      | some source =>
          exact alike_bind (alike_some (alike_build_elements source)) fun given plain same =>
            edits (.update index kind value given plain same)
  | remove index => exact edits (.remove index)
  | elementAt index =>
      exact alike_bind (alike_holding name) fun holding other held =>
        alike_pure (Answer.element_alike (Document.element_at_alike held.document index))
  | find finder =>
      refine alike_bind (alike_holding name) fun holding other held => ?_
      have found : holding.document.find finder = other.document.find finder :=
        Document.find_from_alike finder ignores 0 _ _ held.document.shapes
      rw [found]
      exact alike_answer _ (alike_of_except (Agree.refl _))
  | setElements source =>
      exact alike_bind (alike_build_elements source) fun elements plains same =>
        edits (.setElements elements plains same)
  | clear => exact edits .clear
  | setRules drafts =>
      refine alike_bind (alike_build_rules drafts ignores) ?_
      rintro rules _ ⟨rfl, kept⟩
      exact alike_bind (alike_configure name _ fun _ before => ⟨kept, before.validator⟩)
        fun _ _ _ => alike_pure rfl
  | setAuto auto =>
      exact alike_bind (alike_configure name _ fun _ before => ⟨before.rules, before.validator⟩)
        fun _ _ _ => alike_pure rfl
  | setValidator validator =>
      exact alike_bind (alike_configure name _ fun _ before => ⟨before.rules, ignores⟩)
        fun _ _ _ => alike_pure rfl
  | validate =>
      refine alike_bind alike_get fun before otherBefore alike => ?_
      refine alike_bind (alike_holding name) fun holding other held => ?_
      obtain ⟨configuration, kept⟩ := alike.configuration held
      rw [← alike.settings, ← configuration]
      refine alike_bind (alike_keep name held
        (Document.validate_alike before.settings _ kept held.document)) ?_
      rintro verdict _ rfl
      exact alike_pure rfl
  | tabulate =>
      exact alike_bind (alike_holding name) fun holding other held =>
        alike_pure (Answer.table_alike held.document.shapes)
  | describe =>
      refine alike_bind (alike_holding name) fun holding other held => alike_pure ?_
      have described : holding.document.description = other.document.description :=
        Document.description_alike held.document
      exact congrArg Answer.description described
  | touch access index path value child => exact alike_touch name access index path value child

theorem alike_normalize (text : String) :
    Alike Answer.Alike (perform (.normalize text)) (perform (.normalize text)) := by
  refine alike_bind (alike_parse text) fun first otherFirst firstSame => ?_
  dsimp only
  rw [Formula.write_same firstSame]
  refine alike_bind (alike_parse _) fun second otherSecond secondSame => ?_
  refine alike_bind (alike_parse _) fun left otherLeft leftSame => ?_
  refine alike_bind (alike_parse _) fun right otherRight rightSame => ?_
  rw [Formula.write_same secondSame, Element.all_same_of_shapes leftSame rightSame]
  exact alike_pure rfl

theorem alike_inspect (draft : Draft) :
    Alike Answer.Alike (perform (.inspect draft)) (perform (.inspect draft.withoutIds)) := by
  refine alike_bind (alike_build_element draft) fun element plain same => ?_
  refine alike_bind (alike_copy same) fun copy plainCopy copySame => alike_pure ?_
  show Answer.inspected _ _ = Answer.inspected _ _
  rw [(Element.renumbered_eq_iff element plain).mpr same,
    (Element.renumbered_eq_iff copy plainCopy).mpr copySame]

theorem alike_compare (left right : Source) :
    Alike Answer.Alike (perform (.compare left right))
      (perform (.compare left.withoutIds right.withoutIds)) := by
  refine alike_bind (alike_build_elements left) fun lefts plainLefts leftSame => ?_
  refine alike_bind (alike_build_elements right) fun rights plainRights rightSame => ?_
  rw [Element.all_same_of_shapes leftSame rightSame]
  exact alike_pure rfl

theorem alike_judge (text : String) (given : Option Source) (drafts : List RuleDraft)
    (wantsTable : Bool) (ignores : ∀ draft ∈ drafts, draft.IgnoresIds) :
    Alike Answer.Alike (perform (.validate text given drafts wantsTable))
      (perform (.validate text (given.map Source.withoutIds) drafts wantsTable)) := by
  refine alike_bind (alike_elements_of text given) fun elements plains same => ?_
  refine alike_bind (alike_build_rules drafts ignores) ?_
  rintro rules _ ⟨rfl, kept⟩
  refine alike_bind (alike_validate text rules kept same) ?_
  rintro verdict _ rfl
  cases wantsTable with
  | false => exact alike_pure rfl
  | true =>
      refine alike_bind (alike_tabulate verdict) ?_
      rintro table _ rfl
      exact alike_pure rfl

theorem alike_summarize (text : String) (given : Option Source) :
    Alike Answer.Alike (perform (.summarize text given))
      (perform (.summarize text (given.map Source.withoutIds))) := by
  refine alike_bind (alike_elements_of text given) fun elements plains same => ?_
  refine alike_bind alike_settings ?_
  rintro settings _ rfl
  rw [Check.summarize_same settings text same]
  exact alike_answer _ (alike_of_except (Agree.refl _))

theorem alike_read (source : Source) (read : List (Element Id) → Answer)
    (agrees : ∀ elements plains, Element.shapes elements = Element.shapes plains →
      (read elements).Alike (read plains)) :
    Alike Answer.Alike (do return read (← buildElements source))
      (do return read (← buildElements source.withoutIds)) :=
  alike_bind (alike_build_elements source) fun elements plains same =>
    alike_pure (agrees elements plains same)

theorem alike_compare_rules (left right : RuleDraft) :
    Alike Answer.Alike (perform (.compareRules left right))
      (perform (.compareRules left right)) := by
  refine alike_bind (alike_build_rule left) ?_
  rintro first _ ⟨rfl, -⟩
  refine alike_bind (alike_build_rule right) ?_
  rintro second _ ⟨rfl, -⟩
  exact alike_pure rfl

theorem alike_tabulate_verdict (draft : VerdictDraft) :
    Alike Answer.Alike (perform (.tabulateVerdict draft)) (perform (.tabulateVerdict draft)) := by
  refine alike_bind (alike_of_except (Agree.refl _)) ?_
  rintro verdict _ rfl
  refine alike_bind (alike_tabulate verdict) ?_
  rintro table _ rfl
  exact alike_pure rfl

/-- Scopes have no identifiers in them, so they open alike. -/
theorem alike_enter_scope (pairs : List (String × Datum)) :
    Alike Answer.Alike (perform (.enterScope pairs)) (perform (.enterScope pairs)) := by
  refine alike_bind (alike_rescope _) fun _ _ _ => ?_
  refine alike_bind alike_get fun before other alike => ?_
  rw [alike.scopes]
  exact alike_pure rfl

theorem alike_leave_scope (failing : Bool) :
    Alike Answer.Alike (perform (.leaveScope failing)) (perform (.leaveScope failing)) := by
  refine alike_bind (alike_rescope _) fun _ _ _ => ?_
  cases failing with
  | true => exact alike_throw _
  | false =>
      refine alike_bind alike_get fun before other alike => ?_
      rw [alike.scopes]
      exact alike_pure rfl

theorem alike_perform (command : Command) (ignores : command.IgnoresIds) :
    Alike Answer.Alike (perform command) (perform command.withoutIds) := by
  cases command with
  | parse text =>
      exact alike_map (alike_parse text) _ _ fun elements others same =>
        congrArg Answer.elements ((Element.all_renumbered_eq_iff elements others).mpr same)
  | normalize text => exact alike_normalize text
  | write source =>
      exact alike_read source _ fun elements plains same =>
        congrArg (fun text => (Answer.text text).renumbered) (Formula.write_same same)
  | inspect draft => exact alike_inspect draft
  | compare left right => exact alike_compare left right
  | validate text given drafts wantsTable => exact alike_judge text given drafts wantsTable ignores
  | summarize text given => exact alike_summarize text given
  | checkBrackets text =>
      refine alike_bind alike_settings ?_
      rintro settings _ rfl
      exact alike_pure rfl
  | checkOperators source =>
      exact alike_read source _ fun elements plains same =>
        congrArg (fun fault => (Answer.position fault).renumbered)
          (Adjacency.first_unsurrounded_same elements plains same)
  | checkOperands source =>
      exact alike_read source _ fun elements plains same =>
        congrArg (fun fault => (Answer.position fault).renumbered)
          (Adjacency.first_consecutive_same elements plains same)
  | buildRule draft =>
      refine alike_map (alike_build_rule draft) _ _ ?_
      rintro rule _ ⟨rfl, -⟩
      rfl
  | compareRules left right => exact alike_compare_rules left right
  | tabulateElements source => exact alike_read source _ fun _ _ same => Answer.table_alike same
  | choose given choices =>
      exact alike_bind (alike_of_except (Agree.refl _)) fun _ _ _ => alike_pure rfl
  | inheritDescription own inherited => exact alike_pure rfl
  | tabulateVerdict draft => exact alike_tabulate_verdict draft
  | drawId =>
      have drawn : Alike (fun _ _ => True) draw draw := alike_drawing fun _ _ => trivial
      exact alike_map drawn _ _ fun _ _ _ => rfl
  | assignSettings pairs =>
      exact alike_bind (alike_rescope _) fun _ _ _ => alike_pure rfl
  | getSetting name =>
      refine alike_bind alike_options ?_
      rintro options _ rfl
      exact alike_answer _ (alike_of_except (Agree.refl _))
  | enterScope pairs => exact alike_enter_scope pairs
  | leaveScope failing => exact alike_leave_scope failing
  | document name command =>
      exact alike_bind (alike_require name command) fun _ _ _ =>
        alike_perform_on name command ignores

end Parts

end Action

end InlineFormula
