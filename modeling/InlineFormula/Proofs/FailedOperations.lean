import InlineFormula.Proofs.CurrentVerdict
import InlineFormula.Proofs.RuleLists

/-!
Operations that fail. An edit of a document is refused before it has changed anything, or its
validation fails once the new content is there; then the document is what the same edit makes of
it where changes are not validated, with the verdict that was kept before. A validation that fails
by itself changes nothing, and so does an edit at a position without an element, which is not
validated either.
-/

set_option autoImplicit false

namespace InlineFormula

/-- What the functions that a configuration was given raise when they judge a document: its
validator, or without one the first predicate of its rules that raises a fault. -/
def Configuration.Raises (configuration : Configuration) (document : Document)
    (fault : Fault) : Prop :=
  match configuration.validator with
  | some validator => validator document.text document.elements = .error fault
  | none =>
      configuration.rules.findSome? (Rule.raised? document.text document.elements) = some fault

/-- An edit is refused for the unknown kind of an update, and for nothing else. -/
theorem Edit.revise_refused (settings : Settings) (drawn : Nat) (elements : List (Element Id))
    (edit : Edit) (fault : Fault)
    (refused : edit.revise settings drawn elements = .error fault) :
    ∃ index change given, edit = .update index change ∧ change.kind = some given ∧
      Kind.ofDatum given = .error fault := by
  cases edit with
  | update index change =>
      rw [revise] at refused
      cases within : elementWithin elements index with
      | none =>
          rw [within] at refused
          cases refused
      | some found =>
          rw [within] at refused
          rcases change with ⟨kind, value, children⟩
          cases kind with
          | none => cases refused
          | some given =>
              refine ⟨index, _, given, rfl, rfl, ?_⟩
              simp only [Change.apply] at refused
              cases known : Kind.ofDatum given with
              | ok kind =>
                  rw [known] at refused
                  cases refused
              | error raised =>
                  rw [known] at refused
                  cases refused
                  rfl
  | remove index =>
      rw [revise] at refused
      cases within : indexWithin index elements.length with
      | none =>
          rw [within] at refused
          cases refused
      | some place =>
          rw [within] at refused
          cases refused
  | _ => cases refused

/-- Only a command to update prepares an update, of the position and with the kind that it was
given. -/
theorem DocumentCommand.prepare_update (options : Options) (first last : Nat)
    (command : DocumentCommand) (index : Int) (change : Change)
    (prepared : command.prepare options first = some (.ok (.update index change), last)) :
    ∃ children, command = .update index change.kind change.value children := by
  cases command with
  | update place kind value children =>
      refine ⟨children, ?_⟩
      cases children with
      | none =>
          cases prepared
          rfl
      | some source =>
          obtain ⟨built, -, same⟩ :=
            Draft.map_drawing_ok _ _ _ _ (Option.some.inj prepared)
          cases same
          rfl
  | insert draft place =>
      obtain ⟨built, -, same⟩ := Draft.map_drawing_ok _ _ _ _ (Option.some.inj prepared)
      cases same
  | setElements source =>
      obtain ⟨built, -, same⟩ := Draft.map_drawing_ok _ _ _ _ (Option.some.inj prepared)
      cases same
  | setText text =>
      obtain ⟨readable, -, same⟩ := Draft.map_drawing_ok _ _ _ _ (Option.some.inj prepared)
      cases same
  | _ => cases prepared

namespace Document

variable (settings : Settings) (configuration : Configuration) (drawn : Nat) (document : Document)

theorem judge_raises (complete : settings.MessagesComplete) (fault : Fault)
    (failed : document.judge settings configuration = .error fault) :
    configuration.Raises document fault := by
  rw [judge] at failed
  rw [Configuration.Raises]
  cases given : configuration.validator with
  | some validator =>
      rw [given] at failed
      exact failed
  | none =>
      rw [given] at failed
      dsimp only at failed ⊢
      split at failed
      · cases failed
      · exact (Verdict.of_rules_fault_iff settings complete _ _ _ fault).mp failed

theorem validate_failed (fault : Fault)
    (failed : document.judge settings configuration = .error fault) :
    document.validate settings configuration = { document, result := .error fault } := by
  rw [validate, failed]

theorem edit_unvalidated (edit : Edit) (revision : Revision)
    (revised : edit.revise settings drawn document.elements = .ok revision)
    (quiet : (configuration.auto && revision.answer.changes) = false) :
    document.edit settings configuration drawn edit =
      ({ document := { document with elements := revision.elements }
         result := .ok revision.answer }, revision.drawn) := by
  rw [Document.edit, revised]
  dsimp only
  rw [quiet]
  rfl

theorem edit_invalidated (edit : Edit) (revision : Revision) (fault : Fault)
    (revised : edit.revise settings drawn document.elements = .ok revision)
    (failed : (document.edit settings configuration drawn edit).1.result = .error fault) :
    configuration.auto = true ∧
      (document.edit settings configuration drawn edit).1.document =
        { document with elements := revision.elements } ∧
      ({ document with elements := revision.elements } : Document).judge settings configuration =
        .error fault := by
  cases asked : configuration.auto && revision.answer.changes with
  | false =>
      rw [edit_unvalidated settings configuration drawn document edit revision revised asked]
        at failed
      cases failed
  | true =>
      rw [Document.edit, revised] at failed ⊢
      dsimp only at failed ⊢
      rw [asked, if_pos rfl] at failed ⊢
      cases judged : ({ document with elements := revision.elements } : Document).judge settings
        configuration with
      | ok verdict =>
          rw [validate_result, judged] at failed
          cases failed
      | error raised =>
          rw [validate_failed settings configuration _ raised judged] at failed ⊢
          cases failed
          exact ⟨(Bool.and_eq_true_iff.mp asked).1, rfl, rfl⟩

theorem edit_idle (edit : Edit) (answer : EditAnswer)
    (accepted : (document.edit settings configuration drawn edit).1.result = .ok answer)
    (idle : answer.changes = false) :
    ∃ last, ∀ other : Configuration, document.edit settings other drawn edit =
      ({ document, result := .ok answer }, last) := by
  obtain ⟨revision, revised, rfl, -⟩ :=
    edit_accepted settings configuration document drawn edit answer accepted
  refine ⟨revision.drawn, ?_⟩
  intro other
  rw [edit_unvalidated settings other drawn document edit revision revised
    (by rw [idle, Bool.and_false]),
    edit.revise_unchanged settings drawn _ revision revised idle]

end Document

theorem Action.idle_of_answer (reply : EditAnswer)
    (absent : answerOf reply = .present false) : reply.changes = false := by
  cases reply with
  | found present =>
      cases absent
      rfl
  | _ => cases absent

namespace Workspace

/-- A command left this document under its name, and all else that outlives it as it was, but for
the number of identifiers drawn. -/
structure Leaves (before after : Workspace) (name : String) (document : Document) : Prop where
  named : after.find? name = (before.find? name).map fun holding => { holding with document }
  others : ∀ other, other ≠ name → after.find? other = before.find? other
  configurations : after.configurations = before.configurations
  scopes : after.scopes = before.scopes

def quieted (workspace : Workspace) (name : String) : Workspace :=
  (workspace.perform none (.document name (.setAuto false))).2

def unvalidated (workspace : Workspace) (name : String) (command : DocumentCommand) : Report :=
  ((workspace.quieted name).perform none (.document name command)).1

/-- How a command that edits a document fails: before there is new content, and then it fails
without validation too; or in the validation of new content, which the document then has. -/
inductive FailsToEdit (workspace : Workspace) (name : String) (holding : Holding)
    (command : DocumentCommand) (fault : Fault) : Prop where
  | refused
      (cause : (∃ drawn, command.prepare workspace.options workspace.drawn =
          some (.error fault, drawn)) ∨
        ∃ index given value children, command = .update index (some given) value children ∧
          Kind.ofDatum given = .error fault)
      (alike : (workspace.unvalidated name command).answer = .error fault)
      (left : workspace.Leaves (workspace.perform none (.document name command)).2 name
        holding.document)
  | invalidated (document : Document) (answer : Answer)
      (auto : (workspace.configuration holding).auto = true)
      (cause : (workspace.configuration holding).Raises document fault)
      (answered : (workspace.unvalidated name command).answer = .ok answer)
      (alike : (workspace.unvalidated name command).document = some document)
      (kept : document.last = holding.document.last)
      (left : workspace.Leaves (workspace.perform none (.document name command)).2 name document)

variable (workspace : Workspace) (name : String) (holding : Holding)
  (found : workspace.find? name = some holding)

include found

theorem leaves_drawn (drawn : Nat) :
    workspace.Leaves { workspace.fresh with drawn } name holding.document := by
  refine ⟨?_, fun _ _ => rfl, rfl, rfl⟩
  rw [found]
  exact found

theorem leaves_store {α : Type} (drawn : Nat) (outcome : Outcome α) :
    workspace.Leaves ({ workspace.fresh with drawn }.store name holding outcome) name
      outcome.document := by
  refine ⟨?_, ?_, rfl, rfl⟩
  · rw [found, find_store]
    rfl
  · intro other different
    exact find_store_other _ name holding outcome other different

theorem perform_unprepared (command : DocumentCommand) (edits : command.edits = true)
    (fault : Fault) (drawn : Nat)
    (prepared : command.prepare workspace.options workspace.drawn = some (.error fault, drawn)) :
    workspace.perform none (.document name command) =
      ({ answer := .error fault, warnings := [], log := [], document := some holding.document },
        { workspace.fresh with drawn }) := by
  obtain ⟨result, same, -, ran⟩ := Action.run_prepared name command workspace.fresh edits
  cases prepared.symm.trans same
  have kept : ({ workspace.fresh with drawn } : Workspace).find? name = some holding := found
  rw [perform_eq, Action.perform_held name workspace.fresh command holding found, ran]
  simp only [Command.documentName?, Option.bind_some, kept, Option.map_some]
  rfl

theorem perform_prepared (command : DocumentCommand) (edits : command.edits = true)
    (edit : Edit) (drawn : Nat)
    (prepared : command.prepare workspace.options workspace.drawn = some (.ok edit, drawn))
    (outcome : Outcome EditAnswer) (last : Nat)
    (performed : holding.document.edit workspace.settings (workspace.configuration holding) drawn
      edit = (outcome, last)) :
    workspace.perform none (.document name command) =
      ({ answer := outcome.result.map Action.answerOf
         warnings := []
         log := outcome.log
         document := some outcome.document },
        { workspace.fresh with drawn := last }.store name holding outcome) := by
  obtain ⟨result, same, -, ran⟩ := Action.run_prepared name command workspace.fresh edits
  cases prepared.symm.trans same
  have kept : ({ workspace.fresh with drawn } : Workspace).find? name = some holding := found
  have edited : (Action.edit name edit).runOn { workspace.fresh with drawn } =
      (outcome.result, { workspace.fresh with drawn := last }.store name holding outcome) := by
    have again : holding.document.edit ({ workspace.fresh with drawn } : Workspace).settings
        (({ workspace.fresh with drawn } : Workspace).configuration holding) drawn edit =
          (outcome, last) := performed
    rw [Action.run_edit name edit _ holding kept]
    dsimp only
    rw [again]
  dsimp only at ran
  rw [edited] at ran
  rw [perform_eq, Action.perform_held name workspace.fresh command holding found, ran]
  simp only [Command.documentName?, Option.bind_some, find_store, Option.map_some]
  rfl

theorem quieted_eq :
    workspace.quieted name =
      { workspace.fresh with
        configurations := workspace.configurations.modify holding.configuration
          fun configuration => { configuration with auto := false } } := by
  have kept : workspace.fresh.find? name = some holding := found
  rw [quieted, perform_after, Action.perform_held name workspace.fresh _ holding kept]
  simp only [Action.performOn, Action.configure, Action.run_bind, Action.run_holding, kept,
    Option.elim, Action.run_modify, Action.run_pure]
  rfl

theorem quieted_same :
    (workspace.quieted name).options = workspace.options ∧
      (workspace.quieted name).drawn = workspace.drawn ∧
      (workspace.quieted name).find? name = some holding := by
  rw [quieted_eq workspace name holding found]
  exact ⟨rfl, rfl, found⟩

theorem quieted_auto : ((workspace.quieted name).configuration holding).auto = false := by
  rw [quieted_eq workspace name holding found, configuration, List.getD_eq_getElem?_getD,
    List.getElem?_modify_eq]
  cases workspace.configurations[holding.configuration]? <;> rfl

theorem unvalidated_unprepared (command : DocumentCommand) (edits : command.edits = true)
    (fault : Fault) (drawn : Nat)
    (prepared : command.prepare workspace.options workspace.drawn = some (.error fault, drawn)) :
    (workspace.unvalidated name command).answer = .error fault := by
  obtain ⟨options, draws, kept⟩ := quieted_same workspace name holding found
  rw [← options, ← draws] at prepared
  rw [unvalidated, perform_unprepared _ name holding kept command edits fault drawn prepared]

theorem unvalidated_prepared (command : DocumentCommand) (edits : command.edits = true)
    (edit : Edit) (drawn : Nat)
    (prepared : command.prepare workspace.options workspace.drawn = some (.ok edit, drawn))
    (outcome : Outcome EditAnswer) (last : Nat)
    (performed : ∀ configuration : Configuration, configuration.auto = false →
      holding.document.edit workspace.settings configuration drawn edit = (outcome, last)) :
    (workspace.unvalidated name command).answer = outcome.result.map Action.answerOf ∧
      (workspace.unvalidated name command).document = some outcome.document := by
  obtain ⟨options, draws, kept⟩ := quieted_same workspace name holding found
  have settings : (workspace.quieted name).settings = workspace.settings :=
    congrArg Options.settings options
  have quiet := performed _ (quieted_auto workspace name holding found)
  rw [← options, ← draws] at prepared
  rw [← settings] at quiet
  rw [unvalidated, perform_prepared _ name holding kept command edits edit drawn prepared outcome
    last quiet]
  exact ⟨rfl, rfl⟩

theorem fails_refused (command : DocumentCommand) (edits : command.edits = true)
    (edit : Edit) (drawn : Nat)
    (prepared : command.prepare workspace.options workspace.drawn = some (.ok edit, drawn))
    (fault : Fault)
    (refused : edit.revise workspace.settings drawn holding.document.elements = .error fault) :
    workspace.FailsToEdit name holding command fault := by
  have performed (configuration : Configuration) :=
    holding.document.edit_refused workspace.settings configuration drawn edit fault refused
  have ran := perform_prepared workspace name holding found command edits edit drawn prepared _ _
    (performed _)
  obtain ⟨answered, -⟩ := unvalidated_prepared workspace name holding found command edits edit
    drawn prepared _ _ fun configuration _ => performed configuration
  obtain ⟨index, change, given, rfl, named, unknown⟩ :=
    edit.revise_refused workspace.settings drawn holding.document.elements fault refused
  obtain ⟨children, asked⟩ :=
    DocumentCommand.prepare_update _ _ _ command index change prepared
  rw [named] at asked
  apply FailsToEdit.refused (.inr ⟨index, given, change.value, children, asked, unknown⟩) answered
  rw [ran]
  exact leaves_store workspace name holding found drawn _

theorem fails_invalidated (complete : workspace.settings.MessagesComplete)
    (command : DocumentCommand) (edits : command.edits = true) (edit : Edit) (drawn : Nat)
    (prepared : command.prepare workspace.options workspace.drawn = some (.ok edit, drawn))
    (revision : Revision)
    (revised : edit.revise workspace.settings drawn holding.document.elements = .ok revision)
    (outcome : Outcome EditAnswer) (last : Nat)
    (performed : holding.document.edit workspace.settings (workspace.configuration holding) drawn
      edit = (outcome, last))
    (fault : Fault) (failed : outcome.result = .error fault) :
    workspace.FailsToEdit name holding command fault := by
  have ran := perform_prepared workspace name holding found command edits edit drawn prepared
    outcome last performed
  have left := leaves_store workspace name holding found last outcome
  have validated := holding.document.edit_invalidated workspace.settings
    (workspace.configuration holding) drawn edit revision fault revised
  rw [performed] at validated
  obtain ⟨auto, document, judged⟩ := validated failed
  rw [document] at left
  obtain ⟨answered, content⟩ := unvalidated_prepared workspace name holding found command edits
    edit drawn prepared _ _ fun configuration quiet =>
      holding.document.edit_unvalidated workspace.settings configuration drawn edit revision
        revised (by rw [quiet, Bool.false_and])
  apply FailsToEdit.invalidated _ _ auto (Document.judge_raises _ _ _ complete fault judged)
    answered content rfl
  rw [ran]
  exact left

theorem fails_to_edit (complete : workspace.settings.MessagesComplete)
    (command : DocumentCommand) (edits : command.edits = true) (fault : Fault)
    (failed : (workspace.perform none (.document name command)).1.answer = .error fault) :
    workspace.FailsToEdit name holding command fault := by
  obtain ⟨⟨result, drawn⟩, prepared, -, -⟩ :=
    Action.run_prepared name command workspace.fresh edits
  rw [fresh_options, fresh_drawn] at prepared
  cases result with
  | error raised =>
      have ran :=
        perform_unprepared workspace name holding found command edits raised drawn prepared
      have alike :=
        unvalidated_unprepared workspace name holding found command edits raised drawn prepared
      rw [ran] at failed
      cases failed
      apply FailsToEdit.refused (.inl ⟨drawn, prepared⟩) alike
      rw [ran]
      exact leaves_drawn workspace name holding found drawn
  | ok edit =>
      rcases performed : holding.document.edit workspace.settings
        (workspace.configuration holding) drawn edit with ⟨outcome, last⟩
      rw [perform_prepared workspace name holding found command edits edit drawn prepared outcome
        last performed] at failed
      have raised := of_map_eq_error failed
      cases revised : edit.revise workspace.settings drawn holding.document.elements with
      | error refused =>
          rw [Document.edit_refused _ _ _ _ edit refused revised] at performed
          cases performed
          cases raised
          exact fails_refused workspace name holding found command edits edit drawn prepared fault
            revised
      | ok revision =>
          exact fails_invalidated workspace name holding found complete command edits edit drawn
            prepared revision revised outcome last performed fault raised

theorem fails_to_validate (fault : Fault)
    (failed : (workspace.perform none (.document name .validate)).1.answer = .error fault) :
    workspace.Leaves (workspace.perform none (.document name .validate)).2 name holding.document ∧
      (workspace.perform none (.document name .validate)).2.drawn = workspace.drawn ∧
      (workspace.perform none (.document name .validate)).1.log = [] := by
  obtain ⟨answered, left⟩ := perform_validate workspace name holding found
  have judged := of_map_eq_error (answered.symm.trans failed)
  rw [Document.validate_failed _ _ _ fault judged] at left
  refine ⟨?_, ?_, ?_⟩
  · rw [left]
    exact leaves_store workspace name holding found workspace.drawn
      ({ document := holding.document, result := .error fault } : Outcome Verdict)
  · rw [left]
    rfl
  · exact congrArg Workspace.log left

/-- An edit that reports no change has made none, and does so under every configuration. -/
theorem edits_nothing (command : DocumentCommand) (edits : command.edits = true)
    (absent : (workspace.perform none (.document name command)).1.answer =
      .ok (.present false)) :
    workspace.Leaves (workspace.perform none (.document name command)).2 name holding.document ∧
      (workspace.perform none (.document name command)).1.log = [] ∧
      ∀ configurations, (({ workspace with configurations } : Workspace).perform none
        (.document name command)).1 = (workspace.perform none (.document name command)).1 := by
  obtain ⟨⟨result, drawn⟩, prepared, -, -⟩ :=
    Action.run_prepared name command workspace.fresh edits
  rw [fresh_options, fresh_drawn] at prepared
  cases result with
  | error raised =>
      rw [perform_unprepared workspace name holding found command edits raised drawn prepared]
        at absent
      cases absent
  | ok edit =>
      rcases performed : holding.document.edit workspace.settings
        (workspace.configuration holding) drawn edit with ⟨outcome, last⟩
      have ran := perform_prepared workspace name holding found command edits edit drawn prepared
        outcome last performed
      rw [ran] at absent
      obtain ⟨reply, accepted, same⟩ := of_map_eq_ok absent
      have idle := holding.document.edit_idle workspace.settings (workspace.configuration holding)
        drawn edit reply
      rw [performed] at idle
      obtain ⟨reached, alike⟩ := idle accepted (Action.idle_of_answer reply same)
      cases performed.symm.trans (alike _)
      rw [ran]
      refine ⟨leaves_store workspace name holding found last _, rfl, ?_⟩
      intro configurations
      rw [perform_prepared { workspace with configurations } name holding found command edits edit
        drawn prepared _ _ (alike _)]

end Workspace

/-- An edit that fails is refused before it has changed anything, or leaves the document as it
would be where changes are not validated; in both cases the configuration and the verdict that
was kept stay. A validation that fails changes nothing, and an edit that finds nothing to change
validates nothing either. -/
theorem failures_leave_nothing_half_done (workspace : Workspace)
    (complete : workspace.settings.MessagesComplete) (name : String) (holding : Holding)
    (found : workspace.find? name = some holding) :
    (∀ command fault, command.edits = true →
      (workspace.perform none (.document name command)).1.answer = .error fault →
      workspace.FailsToEdit name holding command fault) ∧
    (∀ fault, (workspace.perform none (.document name .validate)).1.answer = .error fault →
      workspace.Leaves (workspace.perform none (.document name .validate)).2 name
          holding.document ∧
        (workspace.perform none (.document name .validate)).2.drawn = workspace.drawn ∧
        (workspace.perform none (.document name .validate)).1.log = []) ∧
    ∀ command, command.edits = true →
      (workspace.perform none (.document name command)).1.answer = .ok (.present false) →
      workspace.Leaves (workspace.perform none (.document name command)).2 name
          holding.document ∧
        (workspace.perform none (.document name command)).1.log = [] ∧
        ∀ configurations, (({ workspace with configurations } : Workspace).perform none
          (.document name command)).1 = (workspace.perform none (.document name command)).1 := by
  refine ⟨?_, ?_, ?_⟩
  · intro command fault edits failed
    exact workspace.fails_to_edit name holding found complete command edits fault failed
  · exact workspace.fails_to_validate name holding found
  · exact workspace.edits_nothing name holding found

def raisingRun : List Step :=
  [.command none (.document "draft" (.create "a"
      (.own false [{ tag := .text "has-equals", message := some "no equation" }] none))),
   .command none (.document "draft" .validate),
   .command none (.document "draft" (.setRules
      [{ tag := .text "custom", predicate := some (Predicate.fails "ValueError" "odd") }])),
   .command none (.document "draft" (.setAuto true))]

def raisingDraft : Workspace := (({} : Workspace).runAll raisingRun).2

def failedHolding : Holding where
  document :=
    { elements := [⟨.letter, "a", [], "fe-1"⟩]
      last := some ⟨false, [⟨.text "no equation", .check .hasEquals, none⟩]⟩ }
  configuration := 0

theorem failures_leave_nothing_half_done_raising :
    raisingDraft.settings.MessagesComplete ∧
      raisingDraft.find? "draft" = some failedHolding ∧
      raisingDraft.FailsToEdit "draft" failedHolding (.setText "b=2") (.raised "ValueError" "odd") ∧
      raisingDraft.FailsToEdit "draft" failedHolding (.update 0 (some (.text "odd")) none none)
        (.unknownKind (.text "odd")) ∧
      raisingDraft.Leaves (raisingDraft.perform none (.document "draft" .validate)).2 "draft"
        failedHolding.document ∧
      raisingDraft.Leaves (raisingDraft.perform none (.document "draft" (.remove 7))).2 "draft"
        failedHolding.document := by
  have complete : raisingDraft.settings.MessagesComplete := by
    have plain : Step.AllPlain raisingRun :=
      ⟨⟨nofun, nofun, nofun, nofun, trivial⟩, nofun, nofun, nofun, nofun, trivial⟩
    rw [raisingDraft, Workspace.settings, ← Workspace.scopes_current]
    exact (Workspace.run_usable .unbounded raisingRun plain).current.complete
  -- A scan goes down the length of a text, and such definitions are not unfolded otherwise.
  have found : raisingDraft.find? "draft" = some failedHolding := by
    with_unfolding_all rfl
  obtain ⟨edits, validates, idles⟩ :=
    failures_leave_nothing_half_done raisingDraft complete "draft" failedHolding found
  have raised : (raisingDraft.perform none (.document "draft" (.setText "b=2"))).1.answer =
      .error (.raised "ValueError" "odd") := by
    with_unfolding_all rfl
  have unknown : (raisingDraft.perform none
      (.document "draft" (.update 0 (some (.text "odd")) none none))).1.answer =
      .error (.unknownKind (.text "odd")) := by
    with_unfolding_all rfl
  have failed : (raisingDraft.perform none (.document "draft" .validate)).1.answer =
      .error (.raised "ValueError" "odd") := by
    with_unfolding_all rfl
  have absent : (raisingDraft.perform none (.document "draft" (.remove 7))).1.answer =
      .ok (.present false) := by
    with_unfolding_all rfl
  have edited := edits (.setText "b=2") _ rfl raised
  have refused := edits (.update 0 (some (.text "odd")) none none) _ rfl unknown
  have validated := validates _ failed
  have idle := idles (.remove 7) rfl absent
  exact ⟨complete, found, edited, refused, validated.1, idle.1⟩

end InlineFormula
