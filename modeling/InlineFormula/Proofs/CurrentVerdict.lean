import InlineFormula.Proofs.KeptVerdict

/-!
Verdicts that stay current. Where every change is validated, the kept verdict is what an explicit
validation would return: from the first change of content on, and for as long as the settings and
the configuration of the document stay as they are.
-/

set_option autoImplicit false

namespace InlineFormula

theorem Action.changes_of_answer (reply : EditAnswer)
    (changed : answerOf reply ≠ .present false) : reply.changes = true := by
  cases reply with
  | found present =>
      cases present with
      | false => exact absurd rfl changed
      | true => rfl
  | _ => rfl

theorem Edit.revise_unchanged (settings : Settings) (drawn : Nat) (elements : List (Element Id))
    (edit : Edit) (revision : Revision)
    (revised : edit.revise settings drawn elements = .ok revision)
    (unchanged : revision.answer.changes = false) : revision.elements = elements := by
  cases edit with
  | setText _ | insert _ _ | setElements _ | clear =>
      cases revised
      cases unchanged
  | update index change =>
      obtain rfl | ⟨_, _, _, _, _, rfl⟩ :=
        revise_update_cases settings drawn elements index change revision revised
      · rfl
      · cases unchanged
  | remove index =>
      rw [revise] at revised
      split at revised
      case h_1 =>
        cases revised
        rfl
      case h_2 =>
        cases revised
        cases unchanged

namespace Document

variable (settings : Settings) (configuration : Configuration) (document : Document)

def Current : Prop :=
  ∃ verdict, document.last = some verdict ∧ document.judge settings configuration = .ok verdict

theorem judge_congr {left right : Document} (same : left.elements = right.elements) :
    left.judge settings configuration = right.judge settings configuration := by
  simp only [judge, text, same]

theorem validate_current (set : configuration.isUnset = false) (verdict : Verdict)
    (returned : (document.validate settings configuration).result = .ok verdict) :
    (document.validate settings configuration).document.Current settings configuration := by
  rw [validate_result] at returned
  refine ⟨verdict, ?_, ?_⟩
  · rw [validate_last settings configuration document verdict returned, set]
    rfl
  · rw [judge_congr settings configuration (validate_elements settings configuration document)]
    exact returned

/-- An edit that is not refused has answered as its revision did, and left the revised content,
which was validated if it had to be. -/
theorem edit_accepted (drawn : Nat) (edit : Edit) (answer : EditAnswer)
    (accepted : (document.edit settings configuration drawn edit).1.result = .ok answer) :
    ∃ revision, edit.revise settings drawn document.elements = .ok revision ∧
      answer = revision.answer ∧
      if configuration.auto && answer.changes then
        ∃ verdict, ({ document with elements := revision.elements }.validate settings
          configuration).result = .ok verdict ∧
        (document.edit settings configuration drawn edit).1.document =
          ({ document with elements := revision.elements }.validate settings
            configuration).document
      else (document.edit settings configuration drawn edit).1.document =
        { document with elements := revision.elements } := by
  cases revised : edit.revise settings drawn document.elements with
  | error fault =>
      rw [edit_refused settings configuration drawn document edit fault revised] at accepted
      cases accepted
  | ok revision =>
      refine ⟨revision, rfl, ?_⟩
      simp only [Document.edit, revised] at accepted ⊢
      split at accepted
      case isTrue validated =>
        cases returned : ({ document with elements := revision.elements }.validate settings
          configuration).result with
        | error fault =>
            rw [returned] at accepted
            cases accepted
        | ok verdict =>
            rw [returned] at accepted
            cases accepted
            rw [if_pos validated, if_pos validated]
            exact ⟨rfl, verdict, rfl, rfl⟩
      case isFalse kept =>
        cases accepted
        rw [if_neg kept, if_neg kept]
        exact ⟨rfl, rfl⟩

theorem edit_current (drawn : Nat) (edit : Edit) (answer : EditAnswer)
    (auto : configuration.auto = true) (set : configuration.isUnset = false)
    (accepted : (document.edit settings configuration drawn edit).1.result = .ok answer)
    (before : answer.changes = true ∨ document.Current settings configuration) :
    (document.edit settings configuration drawn edit).1.document.Current settings
      configuration := by
  obtain ⟨revision, revised, rfl, outcome⟩ :=
    edit_accepted settings configuration document drawn edit answer accepted
  rw [auto, Bool.true_and] at outcome
  cases changes : revision.answer.changes with
  | true =>
      rw [changes, if_pos rfl] at outcome
      obtain ⟨verdict, returned, left⟩ := outcome
      rw [left]
      exact validate_current settings configuration _ set verdict returned
  | false =>
      rw [changes, if_neg Bool.false_ne_true,
        edit.revise_unchanged settings drawn _ revision revised changes] at outcome
      rw [changes] at before
      rw [outcome]
      exact before.resolve_left Bool.false_ne_true

theorem start_current (drawn : Nat) (text : String) (filled : text.isEmpty = false)
    (answer : EditAnswer) (auto : configuration.auto = true)
    (set : configuration.isUnset = false)
    (accepted : (start settings configuration drawn text).1.result = .ok answer) :
    (start settings configuration drawn text).1.document.Current settings configuration := by
  have asEdit : start settings configuration drawn text =
      ({} : Document).edit settings configuration drawn (.setText text) := by
    rw [start, filled]
    rfl
  rw [asEdit] at accepted ⊢
  obtain ⟨revision, revised, rfl, _⟩ :=
    edit_accepted settings configuration {} drawn (.setText text) answer accepted
  refine edit_current settings configuration {} drawn (.setText text) _ auto set accepted
    (.inl ?_)
  cases revised
  rfl

end Document

namespace DocumentCommand

def fills : DocumentCommand → Bool
  | create text _ => !text.isEmpty
  | command => command.edits

/-- Commands that a document carries out itself once it is there; a write into an element that
it handed out is none of them. -/
def operates : DocumentCommand → Bool
  | create _ _ | touch _ _ _ _ _ => false
  | _ => true

theorem fills_only (command : DocumentCommand) (fills : command.fills = true) :
    command.looks = false ∧ command.configures = false := by
  cases command with
  | create _ _ | setText _ | insert _ _ | update _ _ _ _ | remove _ | setElements _ | clear =>
      exact ⟨rfl, rfl⟩
  | _ => cases fills

end DocumentCommand

namespace Workspace

/-- The verdict kept of a document is what an explicit validation would return now. -/
def VerdictCurrent (workspace : Workspace) (name : String) : Prop :=
  ∃ verdict, workspace.keptVerdict name = some verdict ∧
    (workspace.perform none (.document name .validate)).1.answer = .ok (.verdict verdict none)

theorem verdict_current_iff (workspace : Workspace) (name : String) (holding : Holding)
    (found : workspace.find? name = some holding) :
    workspace.VerdictCurrent name ↔
      holding.document.Current workspace.settings (workspace.configuration holding) := by
  have kept : workspace.keptVerdict name = holding.document.last := by
    rw [keptVerdict, found, Option.bind_some]
  obtain ⟨answered, _⟩ := workspace.perform_validate name holding found
  rw [VerdictCurrent, kept, answered]
  refine exists_congr fun verdict => and_congr_right fun _ => ?_
  cases holding.document.judge workspace.settings (workspace.configuration holding) with
  | error fault => simp [Except.map]
  | ok judged => simp [Except.map]

theorem find_congr {before after : Workspace} (same : after.documents = before.documents)
    (name : String) : after.find? name = before.find? name := by
  rw [find?, same, find?]

theorem Effect.find_other {before after : Workspace} {other : String}
    {command : DocumentCommand} {answer : Except Fault Answer}
    (effect : before.Effect other command answer after) (name : String)
    (different : name ≠ other) : after.find? name = before.find? name := by
  cases effect with
  | refused fault failed draws => exact find_congr draws.documents name
  | looked looks same => rw [same]
  | edited edits holding found edit drawn grows prepared outcome last performed answered left =>
      rw [left]
      exact find_store_other _ other holding outcome name different
  | validated asked holding found outcome performed answered left =>
      rw [left]
      exact before.find_store_other other holding outcome name different
  | configured configures holding found ready draws change answered left =>
      rw [left]
      exact find_congr draws.documents name
  | created text source asked ready draws configuration number added numbered outcome last
      performed answered left =>
      rw [left, find_put_other _ other name _ different]
      exact find_congr draws.documents name
  | touched access index path value child asked holding found built drawn grows made place
      document performed answered left =>
      rw [left]
      exact find_put_other _ other name _ different

theorem find_lasting (name : String) (found : Option Holding) :
    Lasting (fun command => command.documentName? ≠ some name) (fun _ => True)
      (fun workspace => workspace.find? name = found) where
  anew _ same := same
  inside _ _ _ _ _ _ same := same
  outside _ _ _ _ _ _ _ _ same := same
  performed workspace command apart same := by
    cases named : command.documentName? with
    | none =>
        have keeps := Action.perform_keeps_documents workspace command named
        exact (find_congr keeps.documents name).trans same
    | some other =>
        cases command with
        | document about given =>
            have different : name ≠ about := fun same => apart (congrArg some same.symm)
            exact ((Action.perform_effect about workspace given).find_other name different).trans
              same
        | _ => cases named

/-- A command leaves the settings and the configuration of a document as they were, and if it is
about that document, it is carried out under those settings and not refused. -/
structure Steady (workspace : Workspace) (name : String) (own : Option (List (String × Datum)))
    (command : Command) : Prop where
  settings : (workspace.perform own command).2.settings = workspace.settings
  configuration : (workspace.perform own command).2.configurationOf name =
    workspace.configurationOf name
  carried : ∀ given, command = .document name given → given.operates = true ∧ own = none ∧
    ∃ answer, (workspace.perform own command).1.answer = .ok answer

inductive Undisturbed (name : String) (start : Workspace) : Workspace → Prop where
  | here : Undisturbed name start start
  | next (workspace : Workspace) (own : Option (List (String × Datum))) (command : Command)
      (earlier : Undisturbed name start workspace) (steady : workspace.Steady name own command) :
      Undisturbed name start (workspace.perform own command).2

section

variable {before after : Workspace} {name : String}

theorem configuration_of_found (holding : Holding) (found : before.find? name = some holding) :
    before.configurationOf name = some (before.configuration holding) := by
  rw [configurationOf, found, Option.map_some]

theorem VerdictCurrent.keep (current : before.VerdictCurrent name)
    (same : after.find? name = before.find? name) (settings : after.settings = before.settings)
    (configuration : after.configurationOf name = before.configurationOf name) :
    after.VerdictCurrent name := by
  have ⟨verdict, kept, _⟩ := current
  obtain ⟨holding, found, _⟩ := Option.bind_eq_some_iff.mp kept
  have foundAfter := same.trans found
  rw [configuration_of_found holding found, configuration_of_found holding foundAfter]
    at configuration
  rw [verdict_current_iff before name holding found] at current
  rw [verdict_current_iff after name holding foundAfter, settings,
    Option.some.inj configuration]
  exact current

theorem edited_current (holding : Holding) (drawn last : Nat) (edit : Edit)
    (outcome : Outcome EditAnswer)
    (performed : holding.document.edit before.settings (before.configuration holding) drawn edit =
      (outcome, last))
    (auto : (before.configuration holding).auto = true)
    (set : (before.configuration holding).isUnset = false) (reply : EditAnswer)
    (accepted : outcome.result = .ok reply)
    (earlier : reply.changes = true ∨
      holding.document.Current before.settings (before.configuration holding)) :
    ({ before with drawn := last }.store name holding outcome).VerdictCurrent name := by
  rw [verdict_current_iff _ name _ (find_store _ name holding outcome)]
  have current := holding.document.edit_current before.settings (before.configuration holding)
    drawn edit reply auto set
  rw [performed] at current
  exact current accepted earlier

/-- Where changes are validated, no command that a document carries out makes its verdict
outdated. -/
theorem Effect.keeps_current {command : DocumentCommand} {answer : Except Fault Answer}
    (effect : before.Effect name command answer after) (configuration : Configuration)
    (configured : before.configurationOf name = some configuration)
    (auto : configuration.auto = true) (set : configuration.isUnset = false)
    (operates : command.operates = true) (given : Answer) (answered : answer = .ok given)
    (settings : after.settings = before.settings)
    (kept : after.configurationOf name = before.configurationOf name)
    (current : before.VerdictCurrent name) : after.VerdictCurrent name := by
  cases effect with
  | refused fault failed draws =>
      rw [failed] at answered
      cases answered
  | looked looks same =>
      rw [same]
      exact current
  | edited edits holding found edit drawn grows prepared outcome last performed made left =>
      rw [configuration_of_found holding found] at configured
      cases configured
      rw [verdict_current_iff before name holding found] at current
      obtain ⟨reply, accepted, _⟩ := of_map_eq_ok (made.symm.trans answered)
      subst left
      exact edited_current holding drawn last edit outcome performed auto set reply accepted
        (.inr current)
  | validated asked holding found outcome performed made left =>
      rw [configuration_of_found holding found] at configured
      cases configured
      obtain ⟨verdict, returned, _⟩ := of_map_eq_ok (made.symm.trans answered)
      subst left performed
      rw [verdict_current_iff _ name _ (find_store _ name holding _)]
      exact Document.validate_current _ _ _ set verdict returned
  | configured configures holding found ready draws change made left =>
      subst left
      exact current.keep (find_congr draws.documents name) settings kept
  | created text source asked =>
      rw [asked] at operates
      cases operates
  | touched access index path value child asked =>
      rw [asked] at operates
      cases operates

/-- Where changes are validated, the verdict is current once the content has changed. -/
theorem Effect.makes_current {command : DocumentCommand} {answer : Except Fault Answer}
    (effect : before.Effect name command answer after) (fills : command.fills = true)
    (given : Answer) (answered : answer = .ok given) (changed : given ≠ .present false)
    (configuration : Configuration)
    (configured : after.configurationOf name = some configuration)
    (auto : configuration.auto = true) (set : configuration.isUnset = false) :
    after.VerdictCurrent name := by
  cases effect with
  | refused fault failed draws =>
      rw [failed] at answered
      cases answered
  | looked looks same =>
      rw [(command.fills_only fills).1] at looks
      cases looks
  | edited edits holding found edit drawn grows prepared outcome last performed made left =>
      subst left
      rw [configuration_of_found _ (find_store { before with drawn := last } name holding outcome)]
        at configured
      cases configured
      obtain ⟨reply, accepted, rfl⟩ := of_map_eq_ok (made.symm.trans answered)
      exact edited_current holding drawn last edit outcome performed auto set reply accepted
        (.inl (Action.changes_of_answer reply changed))
  | validated asked =>
      rw [asked] at fills
      cases fills
  | configured configures =>
      rw [(command.fills_only fills).2] at configures
      cases configures
  | created text source asked ready draws ownConfiguration number added numbered outcome last
      performed made left =>
      rw [asked, DocumentCommand.fills, Bool.not_eq_true'] at fills
      obtain ⟨reply, accepted, _⟩ := of_map_eq_ok (made.symm.trans answered)
      subst left
      have stored := find_put { ready with
        drawn := last
        log := ready.log ++ outcome.log
        configurations := ready.configurations ++ added } name
          { document := outcome.document, configuration := number }
      rw [configuration_of_found _ stored] at configured
      obtain rfl : ownConfiguration = configuration :=
        numbered.symm.trans (Option.some.inj configured)
      rw [verdict_current_iff _ name _ stored]
      show outcome.document.Current ready.settings ((ready.configurations ++ added).getD number {})
      rw [numbered]
      have current := Document.start_current ready.settings _ ready.drawn text fills reply auto set
      rw [performed] at current
      exact current accepted
  | touched access index path value child asked =>
      rw [asked] at fills
      cases fills

end

theorem Steady.keeps_current {workspace : Workspace} {name : String}
    {own : Option (List (String × Datum))} {command : Command}
    (steady : workspace.Steady name own command) (configuration : Configuration)
    (configured : workspace.configurationOf name = some configuration)
    (auto : configuration.auto = true) (set : configuration.isUnset = false)
    (current : workspace.VerdictCurrent name) :
    (workspace.perform own command).2.VerdictCurrent name := by
  by_cases about : command.documentName? = some name
  · cases command with
    | document other given =>
        cases about
        obtain ⟨operates, rfl, answer, answered⟩ := steady.carried given rfl
        exact (Action.perform_effect name workspace.fresh given).keeps_current configuration
          configured auto set operates answer answered steady.settings steady.configuration current
    | _ => cases about
  · have found := (find_lasting name _).perform workspace own command about
      (fun _ _ => trivial) rfl
    exact current.keep found steady.settings steady.configuration

/-- While nothing disturbs it, a document keeps its configuration, and a current verdict. -/
theorem Undisturbed.keeps_current {name : String} {start final : Workspace}
    (onward : Undisturbed name start final) (configuration : Configuration)
    (configured : start.configurationOf name = some configuration)
    (auto : configuration.auto = true) (set : configuration.isUnset = false)
    (current : start.VerdictCurrent name) :
    final.configurationOf name = some configuration ∧ final.VerdictCurrent name := by
  induction onward with
  | here => exact ⟨configured, current⟩
  | next workspace own command earlier steady induction =>
      obtain ⟨same, stays⟩ := induction
      exact ⟨steady.configuration.trans same,
        steady.keeps_current configuration same auto set stays⟩

/-- Where changes are validated, the kept verdict is current from the first change of content on,
and stays so as long as the settings and the configuration stay as they are. -/
theorem kept_verdict_stays_current (workspace : Workspace) (name : String)
    (command : DocumentCommand) (fills : command.fills = true) (answer : Answer)
    (answered : (workspace.perform none (.document name command)).1.answer = .ok answer)
    (changed : answer ≠ .present false) (configuration : Configuration)
    (configured : (workspace.perform none (.document name command)).2.configurationOf name =
      some configuration)
    (auto : configuration.auto = true) (set : configuration.isUnset = false)
    (final : Workspace)
    (onward : Undisturbed name (workspace.perform none (.document name command)).2 final) :
    final.VerdictCurrent name := by
  have current := (Action.perform_effect name workspace.fresh command).makes_current fills answer
    answered changed configuration configured auto set
  exact (onward.keeps_current configuration configured auto set current).2

end Workspace

def validatedDraft : Workspace :=
  ((({} : Workspace).runAll
    [.command none (.document "draft" (.create ""
      (.own true [{ tag := .text "has-equals" }] none))),
     .command none (.document "notes" (.create "" (.own false [] none)))]).2.perform none
    (.document "draft" (.insert ⟨.text "variable", "a", [], none⟩ none))).2

def afterRemoval : Workspace := (validatedDraft.perform none (.document "draft" (.remove 7))).2

def afterNote : Workspace :=
  (afterRemoval.perform none (.document "notes" (.insert ⟨.text "operator", "=", [], none⟩ none))).2

theorem kept_verdict_stays_current_failing :
    DocumentCommand.fills (.insert ⟨.text "variable", "a", [], none⟩ none) = true ∧
      Workspace.Undisturbed "draft" validatedDraft afterNote ∧
      afterNote.VerdictCurrent "draft" ∧
      (afterNote.keptVerdict "draft").map Verdict.valid = some false := by
  have removal : validatedDraft.Steady "draft" none (.document "draft" (.remove 7)) := by
    refine ⟨by rfl, by rfl, ?_⟩
    intro given same
    cases same
    exact ⟨rfl, rfl, .present false, by rfl⟩
  have note : afterRemoval.Steady "draft" none
      (.document "notes" (.insert ⟨.text "operator", "=", [], none⟩ none)) := by
    refine ⟨by rfl, by rfl, ?_⟩
    intro given same
    simp at same
  have onward : Workspace.Undisturbed "draft" validatedDraft afterNote :=
    .next _ _ _ (.next _ _ _ .here removal) note
  refine ⟨rfl, onward, ?_, by rfl⟩
  exact Workspace.kept_verdict_stays_current _ "draft" _ rfl
    (.element (some ⟨.letter, "a", [], "fe-2"⟩)) (by rfl) (by simp)
    { auto := true, rules := [.check .hasEquals none] } (by rfl) rfl rfl afterNote onward

end InlineFormula
