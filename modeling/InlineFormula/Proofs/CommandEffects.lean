import InlineFormula.Proofs.ActionRuns

/-!
Effects of commands. All commands that change the content of a document are one edit of it, once
the elements that they describe are built; every other command validates, reads, configures,
creates or reaches into a document, or leaves all documents alone.
-/

set_option autoImplicit false

namespace InlineFormula

def Draft.mapDrawing {α β : Type} (change : α → β) (drawing : Draft.Drawing α) :
    Draft.Drawing β :=
  (drawing.1.map change, drawing.2)

theorem Draft.map_drawing_ok {α β : Type} (change : α → β) (drawing : Draft.Drawing α)
    (value : β) (last : Nat) (mapped : Draft.mapDrawing change drawing = (.ok value, last)) :
    ∃ built, drawing = (.ok built, last) ∧ change built = value := by
  obtain ⟨result, drawn⟩ := drawing
  obtain ⟨built, rfl, changed⟩ := of_map_eq_ok (congrArg Prod.fst mapped)
  cases mapped
  exact ⟨built, rfl, rfl⟩

namespace DocumentCommand

def edits : DocumentCommand → Bool
  | setText _ | insert _ _ | update _ _ _ _ | remove _ | setElements _ | clear => true
  | _ => false

def looks : DocumentCommand → Bool
  | elementAt _ | find _ | tabulate | describe | touch _ _ _ _ _ => true
  | _ => false

def configures : DocumentCommand → Bool
  | setRules _ | setAuto _ | setValidator _ => true
  | _ => false

/-- The edit that a command asks for, once the elements that it describes are built. -/
def prepare (options : Options) (drawn : Nat) : DocumentCommand → Option (Draft.Drawing Edit)
  | setText text =>
      some (Draft.mapDrawing (fun _ => .setText text) (options.readable drawn text))
  | insert draft index =>
      some (Draft.mapDrawing (fun element => .insert element index) (draft.build drawn))
  | update index kind value none => some (.ok (.update index { kind, value }), drawn)
  | update index kind value (some source) =>
      some (Draft.mapDrawing
        (fun children => .update index { kind, value, children := some children })
        (source.build options drawn))
  | remove index => some (.ok (.remove index), drawn)
  | setElements source => some (Draft.mapDrawing .setElements (source.build options drawn))
  | clear => some (.ok .clear, drawn)
  | _ => none

end DocumentCommand

/-- An update that goes through has found no element, or has changed the one it found. -/
theorem Edit.revise_update_cases (settings : Settings) (drawn : Nat)
    (elements : List (Element Id)) (index : Int) (change : Change) (revision : Revision)
    (revised : (Edit.update index change).revise settings drawn elements = .ok revision) :
    revision = ⟨elements, drawn, .found false⟩ ∨
      ∃ place element changed, elementWithin elements index = some (place, element) ∧
        change.apply element = .ok changed ∧
        revision = ⟨elements.set place changed, drawn, .found true⟩ := by
  rw [revise] at revised
  split at revised
  case h_1 =>
    cases revised
    exact .inl rfl
  case h_2 place element within =>
    obtain ⟨changed, applied, rfl⟩ := of_map_eq_ok revised
    exact .inr ⟨place, element, changed, within, applied, rfl⟩

theorem Edit.revise_drawn_le (settings : Settings) (drawn : Nat) (elements : List (Element Id))
    (edit : Edit) (revision : Revision)
    (revised : edit.revise settings drawn elements = .ok revision) : drawn ≤ revision.drawn := by
  cases edit with
  | setText text =>
      cases revised
      exact Nat.le_add_right _ _
  | insert element index =>
      cases revised
      exact Nat.le_add_right _ _
  | update index change =>
      obtain rfl | ⟨_, _, _, _, _, rfl⟩ :=
        revise_update_cases settings drawn elements index change revision revised
      · exact Nat.le_refl drawn
      · exact Nat.le_refl drawn
  | remove index =>
      rw [revise] at revised
      split at revised <;> cases revised <;> exact Nat.le_refl drawn
  | setElements elements =>
      cases revised
      exact Nat.le_add_right _ _
  | clear =>
      cases revised
      exact Nat.le_refl drawn

namespace Document

variable (settings : Settings) (configuration : Configuration) (drawn : Nat) (document : Document)

theorem edit_refused (edit : Edit) (fault : Fault)
    (refused : edit.revise settings drawn document.elements = .error fault) :
    document.edit settings configuration drawn edit =
      ({ document, result := .error fault }, drawn) := by
  rw [Document.edit, refused]

theorem edit_elements (edit : Edit) (revision : Revision)
    (revised : edit.revise settings drawn document.elements = .ok revision) :
    (document.edit settings configuration drawn edit).1.document.elements = revision.elements ∧
      (document.edit settings configuration drawn edit).2 = revision.drawn := by
  rw [Document.edit, revised]
  dsimp only
  split
  · exact ⟨validate_elements settings configuration _, rfl⟩
  · exact ⟨rfl, rfl⟩

theorem edit_drawn_le (edit : Edit) :
    drawn ≤ (document.edit settings configuration drawn edit).2 := by
  cases revised : edit.revise settings drawn document.elements with
  | error fault =>
      have refused := edit_refused settings configuration drawn document edit fault revised
      exact Nat.le_of_eq (congrArg Prod.snd refused).symm
  | ok revision =>
      rw [(edit_elements settings configuration drawn document edit revision revised).2]
      exact edit.revise_drawn_le settings drawn _ revision revised

theorem start_drawn_le (text : String) :
    drawn ≤ (start settings configuration drawn text).2 := by
  rw [start]
  split
  · exact Nat.le_refl drawn
  · exact edit_drawn_le settings configuration drawn _ _

end Document

namespace Workspace

variable {α : Type} (workspace : Workspace) (name : String) (holding : Holding)

def store (outcome : Outcome α) : Workspace :=
  let stored := workspace.put name { holding with document := outcome.document }
  { stored with log := stored.log ++ outcome.log }

theorem find_store (outcome : Outcome α) :
    (workspace.store name holding outcome).find? name =
      some { holding with document := outcome.document } :=
  workspace.find_put name _

theorem find_store_other (outcome : Outcome α) (other : String) (different : other ≠ name) :
    (workspace.store name holding outcome).find? other = workspace.find? other :=
  workspace.find_put_other name other _ different

end Workspace

namespace Action

theorem run_holding (name : String) (workspace : Workspace) :
    (holding name).runOn workspace =
      ((workspace.find? name).elim (.error (.noDocument name)) .ok, workspace) := by
  simp only [holding, run_bind, run_get]
  cases workspace.find? name <;> rfl

theorem run_keep {α : Type} (name : String) (holding : Holding) (outcome : Outcome α)
    (workspace : Workspace) :
    (keep name holding outcome).runOn workspace =
      (outcome.result, workspace.store name holding outcome) := by
  simp only [keep, note, run_bind, run_modify, run_of_except]
  rfl

theorem run_edit (name : String) (edit : Edit) (workspace : Workspace) (holding : Holding)
    (found : workspace.find? name = some holding) :
    (Action.edit name edit).runOn workspace =
      let edited := holding.document.edit workspace.settings (workspace.configuration holding)
        workspace.drawn edit
      (edited.1.result, { workspace with drawn := edited.2 }.store name holding edited.1) := by
  simp only [Action.edit, run_bind, run_get, run_holding, found, Option.elim, run_modify, run_keep]

/-- A command that edits builds what it describes and then makes one edit. -/
theorem run_prepared (name : String) (command : DocumentCommand) (workspace : Workspace)
    (edits : command.edits = true) :
    ∃ prepared, command.prepare workspace.options workspace.drawn = some prepared ∧
      workspace.drawn ≤ prepared.2 ∧
      (performOn name command).runOn workspace =
        match prepared with
        | (.error fault, drawn) => (.error fault, { workspace with drawn })
        | (.ok edit, drawn) =>
            let edited := (Action.edit name edit).runOn { workspace with drawn }
            (edited.1.map answerOf, edited.2) := by
  cases command with
  | setText text =>
      have grows := workspace.options.readable_drawn_le workspace.drawn text
      refine ⟨_, rfl, grows, ?_⟩
      simp only [performOn, run_bind, run_readable, run_map, Draft.mapDrawing]
      rcases workspace.options.readable workspace.drawn text with ⟨fault | nothing, drawn⟩ <;> rfl
  | insert draft index =>
      have grows := draft.build_drawn_le workspace.drawn
      refine ⟨_, rfl, grows, ?_⟩
      simp only [performOn, run_bind, buildElement, run_drawing, run_map, Draft.mapDrawing]
      rcases draft.build workspace.drawn with ⟨fault | element, drawn⟩ <;> rfl
  | update index kind value children =>
      cases children with
      | none =>
          refine ⟨_, rfl, Nat.le_refl _, ?_⟩
          simp only [performOn, run_bind, run_pure, run_map]
      | some source =>
          have grows := source.build_drawn_le workspace.options workspace.drawn
          refine ⟨_, rfl, grows, ?_⟩
          simp only [performOn, run_bind, run_build_elements, run_map, Draft.mapDrawing]
          rcases source.build workspace.options workspace.drawn with ⟨fault | children, drawn⟩ <;>
            rfl
  | remove index =>
      refine ⟨_, rfl, Nat.le_refl _, ?_⟩
      simp only [performOn, run_map]
  | setElements source =>
      have grows := source.build_drawn_le workspace.options workspace.drawn
      refine ⟨_, rfl, grows, ?_⟩
      simp only [performOn, run_bind, run_build_elements, run_map, Draft.mapDrawing]
      rcases source.build workspace.options workspace.drawn with ⟨fault | elements, drawn⟩ <;> rfl
  | clear =>
      refine ⟨_, rfl, Nat.le_refl _, ?_⟩
      simp only [performOn, run_map]
  | _ => cases edits

end Action

/-- What a command about the document of this name does, in all cases that there are: a fault may
come before the document is reached; past that point one operation gives the answer and makes
the workspace what it is afterwards. -/
inductive Workspace.Effect (name : String) (command : DocumentCommand) (before : Workspace)
    (answer : Except Fault Answer) (after : Workspace) : Prop where
  | refused (fault : Fault) (failed : answer = .error fault) (draws : before.OnlyDraws after)
  | looked (looks : command.looks = true) (same : after = before)
  | edited (edits : command.edits = true) (holding : Holding)
      (found : before.find? name = some holding) (edit : Edit) (drawn : Nat)
      (grows : before.drawn ≤ drawn)
      (prepared : command.prepare before.options before.drawn = some (.ok edit, drawn))
      (outcome : Outcome EditAnswer) (last : Nat)
      (performed : holding.document.edit before.settings (before.configuration holding) drawn
        edit = (outcome, last))
      (answered : answer = outcome.result.map Action.answerOf)
      (left : after = { before with drawn := last }.store name holding outcome)
  | validated (asked : command = .validate) (holding : Holding)
      (found : before.find? name = some holding) (outcome : Outcome Verdict)
      (performed : holding.document.validate before.settings (before.configuration holding) =
        outcome)
      (answered : answer = outcome.result.map fun verdict => .verdict verdict none)
      (left : after = before.store name holding outcome)
  | configured (configures : command.configures = true) (holding : Holding)
      (found : before.find? name = some holding) (ready : Workspace)
      (draws : before.OnlyDraws ready) (change : Configuration → Configuration)
      (answered : answer = .ok .nothing)
      (left : after = { ready with
        configurations := ready.configurations.modify holding.configuration change })
  | created (text : String) (source : ConfigurationSource)
      (asked : command = .create text source) (ready : Workspace)
      (draws : before.OnlyDraws ready) (configuration : Configuration) (number : Nat)
      (added : List Configuration)
      (numbered : (ready.configurations ++ added).getD number {} = configuration)
      (outcome : Outcome EditAnswer) (last : Nat)
      (performed : Document.start ready.settings configuration ready.drawn text = (outcome, last))
      (answered : answer = outcome.result.map fun _ => .nothing)
      (left : after = { ready with
        drawn := last
        log := ready.log ++ outcome.log
        configurations := ready.configurations ++ added }.put name
          { document := outcome.document, configuration := number })
  | touched (access : Access) (index : Int) (path : List Int) (value : Option String)
      (child : Option Draft) (asked : command = .touch access index path value child)
      (holding : Holding) (found : before.find? name = some holding) (built : Option (Element Id))
      (drawn : Nat) (grows : before.drawn ≤ drawn)
      (made : child.elim (built = none ∧ drawn = before.drawn) fun draft =>
        ∃ element, built = some element ∧ draft.build before.drawn = (.ok element, drawn))
      (place : Nat) (document : Document)
      (performed : holding.document.touch place path
        (.reaching access path.length { value, child := built }) = .ok document)
      (answered : answer = .ok (.present true))
      (left : after = { before with drawn }.put name { holding with document })

/-- A command about a document leaves the scopes as they are, and gives back no identifier. -/
theorem Workspace.Effect.frame {name : String} {command : DocumentCommand}
    {before after : Workspace} {answer : Except Fault Answer}
    (effect : before.Effect name command answer after) :
    after.scopes = before.scopes ∧ before.drawn ≤ after.drawn := by
  cases effect with
  | refused fault failed draws => exact ⟨draws.scopes, draws.drawn⟩
  | looked looks same =>
      subst same
      exact ⟨rfl, Nat.le_refl _⟩
  | edited edits holding found edit drawn grows prepared outcome last performed answered left =>
      have grownOn := holding.document.edit_drawn_le before.settings
        (before.configuration holding) drawn edit
      rw [performed] at grownOn
      subst left
      exact ⟨rfl, Nat.le_trans grows grownOn⟩
  | validated asked holding found outcome performed answered left =>
      subst left
      exact ⟨rfl, Nat.le_refl _⟩
  | configured configures holding found ready draws change answered left =>
      subst left
      exact ⟨draws.scopes, draws.drawn⟩
  | created text source asked ready draws configuration number added numbered outcome last
      performed answered left =>
      have grownOn := Document.start_drawn_le ready.settings configuration ready.drawn text
      rw [performed] at grownOn
      subst left
      exact ⟨draws.scopes, Nat.le_trans draws.drawn grownOn⟩
  | touched access index path value child asked holding found built drawn grows made place
      document performed answered left =>
      subst left
      exact ⟨rfl, grows⟩

namespace Action

variable (name : String) (workspace : Workspace)

theorem edit_effect (command : DocumentCommand) (edits : command.edits = true)
    (holding : Holding) (found : workspace.find? name = some holding) :
    workspace.Effect name command ((performOn name command).runOn workspace).1
      ((performOn name command).runOn workspace).2 := by
  obtain ⟨⟨result, drawn⟩, prepared, grows, ran⟩ := run_prepared name command workspace edits
  rw [ran]
  cases result with
  | error fault => exact .refused fault rfl ⟨⟨rfl, rfl, grows⟩, rfl⟩
  | ok edit =>
      have kept : ({ workspace with drawn } : Workspace).find? name = some holding := found
      dsimp only
      rw [run_edit name edit _ holding kept]
      exact .edited edits holding found edit drawn grows prepared _ _ rfl rfl rfl

theorem configure_effect (command : DocumentCommand) (configures : command.configures = true)
    (holding : Holding) (found : workspace.find? name = some holding) :
    workspace.Effect name command ((performOn name command).runOn workspace).1
      ((performOn name command).runOn workspace).2 := by
  cases command with
  | setRules drafts =>
      have draws := draws_build_rules drafts workspace
      simp only [performOn, run_bind]
      rcases ran : (buildRules drafts).runOn workspace with ⟨result, ready⟩
      rw [ran] at draws
      cases result with
      | error fault => exact .refused fault rfl draws
      | ok rules =>
          have kept : ready.find? name = some holding := by
            rw [← found, Workspace.find?, draws.documents, Workspace.find?]
          simp only [configure, run_bind, run_holding, kept, Option.elim, run_modify, run_pure]
          exact .configured rfl holding found ready draws _ rfl rfl
  | setAuto auto =>
      simp only [performOn, configure, run_bind, run_holding, found, Option.elim, run_modify,
        run_pure]
      exact .configured rfl holding found workspace (.refl workspace) _ rfl rfl
  | setValidator validator =>
      simp only [performOn, configure, run_bind, run_holding, found, Option.elim, run_modify,
        run_pure]
      exact .configured rfl holding found workspace (.refl workspace) _ rfl rfl
  | _ => cases configures

theorem run_validate (holding : Holding) (found : workspace.find? name = some holding) :
    (performOn name .validate).runOn workspace =
      let outcome := holding.document.validate workspace.settings (workspace.configuration holding)
      (outcome.result.map fun verdict => .verdict verdict none,
        workspace.store name holding outcome) := by
  simp only [performOn, run_bind, run_get, run_holding, found, Option.elim, run_keep]
  rcases (holding.document.validate workspace.settings
    (workspace.configuration holding)).result with fault | verdict <;> rfl

theorem validate_effect (holding : Holding) (found : workspace.find? name = some holding) :
    workspace.Effect name .validate ((performOn name .validate).runOn workspace).1
      ((performOn name .validate).runOn workspace).2 := by
  rw [run_validate name workspace holding found]
  exact .validated rfl holding found _ rfl rfl rfl

/-- Once its configuration is settled, a document is created, or nothing has come of it. -/
theorem start_effect (text : String) (source : ConfigurationSource) (ready : Workspace)
    (draws : workspace.OnlyDraws ready) (number : Nat) (configuration : Configuration)
    (added : List Configuration)
    (numbered : (ready.configurations ++ added).getD number {} = configuration) :
    workspace.Effect name (.create text source)
      (((start name text number configuration added).runOn ready).1.map fun _ => .nothing)
      ((start name text number configuration added).runOn ready).2 := by
  have readable := ready.options.readable_drawn_le ready.drawn text
  simp only [start, run_bind, run_readable, run_get, run_modify, note, run_of_except]
  rcases found : ready.options.readable ready.drawn text with ⟨fault | nothing, drawn⟩
  all_goals rw [found] at readable
  · exact .refused fault rfl (draws.trans ⟨⟨rfl, rfl, readable⟩, rfl⟩)
  · have drawsOn : workspace.OnlyDraws { ready with drawn } :=
      draws.trans ⟨⟨rfl, rfl, readable⟩, rfl⟩
    have grows := Document.start_drawn_le ready.settings configuration drawn text
    rcases started : Document.start ready.settings configuration drawn text with ⟨outcome, last⟩
    rw [started] at grows
    have same : Document.start ({ ready with drawn } : Workspace).settings configuration drawn
      text = (outcome, last) := started
    simp only [same]
    cases accepted : outcome.result with
    | error fault => exact .refused fault rfl (drawsOn.trans ⟨⟨rfl, rfl, grows⟩, rfl⟩)
    | ok answer =>
        exact .created text source rfl { ready with drawn } drawsOn configuration number added
          numbered outcome last started (by rw [accepted]; rfl) rfl

theorem create_effect (text : String) (source : ConfigurationSource) :
    workspace.Effect name (.create text source)
      ((performOn name (.create text source)).runOn workspace).1
      ((performOn name (.create text source)).runOn workspace).2 := by
  have answered (action : Action Unit) (before : Workspace) :
      (do action; return .nothing : Action Answer).runOn before =
        ((action.runOn before).1.map fun _ => .nothing, (action.runOn before).2) := by
    rw [run_bind]
    rcases action.runOn before with ⟨fault | nothing, after⟩ <;> rfl
  rw [performOn, answered]
  cases source with
  | sharedWith other =>
      simp only [create, run_bind, run_holding]
      cases workspace.find? other with
      | none => exact .refused _ rfl (.refl workspace)
      | some shared =>
          apply start_effect name workspace text _ workspace (.refl workspace)
          rw [List.append_nil, Workspace.configuration]
  | own auto drafts validator =>
      have draws := draws_build_rules drafts workspace
      simp only [create, run_bind]
      rcases ran : (buildRules drafts).runOn workspace with ⟨fault | rules, ready⟩
      · rw [ran] at draws
        exact .refused fault rfl draws
      · rw [ran] at draws
        apply start_effect name workspace text _ ready draws
        simp

theorem touch_effect (access : Access) (index : Int) (path : List Int) (value : Option String)
    (child : Option Draft) (holding : Holding) (found : workspace.find? name = some holding) :
    workspace.Effect name (.touch access index path value child)
      ((performOn name (.touch access index path value child)).runOn workspace).1
      ((performOn name (.touch access index path value child)).runOn workspace).2 := by
  simp only [performOn, touch, handBack, run_bind, run_holding, found, Option.elim, run_of_except]
  cases holding.document.accessPlace access index with
  | error fault => exact .refused fault rfl (.refl workspace)
  | ok reached =>
    cases reached with
    | none => exact .looked rfl rfl
    | some place =>
      simp only [run_bind, run_of_except]
      cases holding.document.touch place path {} with
      | error fault => exact .refused fault rfl (.refl workspace)
      | ok walked =>
        cases child with
        | none =>
            simp only [run_bind, run_pure, run_of_except]
            cases reached : holding.document.touch place path
              (.reaching access path.length { value, child := none }) with
            | error fault => exact .refused fault rfl (.refl workspace)
            | ok touched =>
                exact .touched access index path value none rfl holding found none workspace.drawn
                  (Nat.le_refl _) ⟨rfl, rfl⟩ place touched reached rfl rfl
        | some draft =>
            have grows := draft.build_drawn_le workspace.drawn
            simp only [run_bind, run_map, buildElement, run_drawing]
            rcases built : draft.build workspace.drawn with ⟨fault | element, drawn⟩
            · rw [built] at grows
              exact .refused fault rfl ⟨⟨rfl, rfl, grows⟩, rfl⟩
            · rw [built] at grows
              simp only [Except.map, run_of_except]
              cases reached : holding.document.touch place path
                (.reaching access path.length { value, child := some element }) with
              | error fault => exact .refused fault rfl ⟨⟨rfl, rfl, grows⟩, rfl⟩
              | ok touched =>
                  exact .touched access index path value (some draft) rfl holding found
                    (some element) drawn grows ⟨element, rfl, built⟩ place touched reached rfl rfl

theorem perform_on_effect (command : DocumentCommand) (holding : Holding)
    (found : workspace.find? name = some holding) :
    workspace.Effect name command ((performOn name command).runOn workspace).1
      ((performOn name command).runOn workspace).2 := by
  cases command with
  | create text source => exact create_effect name workspace text source
  | setText _ | insert _ _ | update _ _ _ _ | remove _ | setElements _ | clear =>
      exact edit_effect name workspace _ rfl holding found
  | setRules _ | setAuto _ | setValidator _ =>
      exact configure_effect name workspace _ rfl holding found
  | elementAt index =>
      simp only [performOn, run_bind, run_holding, found, Option.elim, run_pure]
      exact .looked rfl rfl
  | find finder =>
      simp only [performOn, run_bind, run_map, run_holding, found, Option.elim, run_of_except]
      exact .looked rfl rfl
  | tabulate | describe =>
      simp only [performOn, run_bind, run_holding, found, Option.elim, run_pure]
      exact .looked rfl rfl
  | validate => exact validate_effect name workspace holding found
  | touch access index path value child =>
      exact touch_effect name workspace access index path value child holding found

theorem perform_held (command : DocumentCommand) (holding : Holding)
    (found : workspace.find? name = some holding) :
    (perform (.document name command)).runOn workspace =
      (performOn name command).runOn workspace := by
  rw [perform, run_bind]
  cases command with
  | create text source => rfl
  | _ => simp only [require, run_bind, run_holding, found, Option.elim, run_pure]

theorem perform_effect (command : DocumentCommand) :
    workspace.Effect name command ((perform (.document name command)).runOn workspace).1
      ((perform (.document name command)).runOn workspace).2 := by
  cases found : workspace.find? name with
  | some holding =>
      rw [perform_held name workspace command holding found]
      exact perform_on_effect name workspace command holding found
  | none =>
      rw [perform, run_bind]
      cases command with
      | create text source => exact create_effect name workspace text source
      | _ =>
          simp only [require, run_bind, run_holding, found]
          exact .refused _ rfl (.refl workspace)

/-- Other commands than those about a document and about scopes only draw identifiers. -/
theorem draws_perform (command : Command) (plain : command.documentName? = none)
    (assigns : ∀ pairs, command ≠ .assignSettings pairs)
    (enters : ∀ pairs, command ≠ .enterScope pairs)
    (leaves : ∀ failing, command ≠ .leaveScope failing) : Draws (perform command) := by
  cases command with
  | parse text => exact draws_map _ (draws_parse text)
  | normalize text =>
      exact draws_bind (draws_parse _) fun _ => draws_bind (draws_parse _) fun _ =>
        draws_bind (draws_parse _) fun _ => draws_bind (draws_parse _) fun _ => draws_pure _
  | write source => exact draws_bind (draws_build_elements source) fun _ => draws_pure _
  | inspect draft =>
      exact draws_bind (draws_build_element draft) fun element =>
        draws_bind (draws_copy element) fun _ => draws_pure _
  | compare left right =>
      exact draws_bind (draws_build_elements left) fun _ =>
        draws_bind (draws_build_elements right) fun _ => draws_pure _
  | validate text elements rules tabulated =>
      refine draws_bind (draws_build_elements _) fun _ => draws_bind (draws_build_rules rules)
        fun _ => draws_bind (draws_validate text _ _) fun verdict => ?_
      split
      · exact draws_bind (draws_tabulate verdict) fun _ => draws_pure _
      · exact draws_pure _
  | summarize text elements =>
      exact draws_bind (draws_build_elements _) fun _ => draws_bind draws_settings fun _ =>
        draws_map _ (draws_of_except _)
  | checkBrackets text => exact draws_bind draws_settings fun _ => draws_pure _
  | checkOperators source => exact draws_bind (draws_build_elements source) fun _ => draws_pure _
  | checkOperands source => exact draws_bind (draws_build_elements source) fun _ => draws_pure _
  | buildRule rule => exact draws_map _ (draws_build_rule rule)
  | compareRules left right =>
      exact draws_bind (draws_build_rule left) fun _ =>
        draws_bind (draws_build_rule right) fun _ => draws_pure _
  | choose given choices => exact draws_bind (draws_of_except _) fun _ => draws_pure _
  | inheritDescription own inherited => exact draws_pure _
  | tabulateElements source =>
      exact draws_bind (draws_build_elements source) fun _ => draws_pure _
  | tabulateVerdict draft =>
      exact draws_bind (draws_of_except _) fun verdict =>
        draws_bind (draws_tabulate verdict) fun _ => draws_pure _
  | drawId => exact draws_map _ (draws_drawing _ fun drawn => Nat.le_succ drawn)
  | getSetting name =>
      exact draws_bind draws_options fun _ => draws_map _ (draws_of_except _)
  | assignSettings pairs => exact absurd rfl (assigns pairs)
  | enterScope pairs => exact absurd rfl (enters pairs)
  | leaveScope failing => exact absurd rfl (leaves failing)
  | document name command => cases plain

/-- Commands that are not about a document leave all documents alone. -/
theorem perform_keeps_documents (command : Command) (plain : command.documentName? = none) :
    workspace.KeepsDocuments ((perform command).runOn workspace).2 := by
  cases command with
  | assignSettings pairs =>
      simp only [perform, run_bind, run_rescope]
      rcases workspace.scopes.assign pairs with ⟨scopes, none | fault⟩ <;>
        exact ⟨rfl, rfl, Nat.le_refl _⟩
  | enterScope pairs =>
      simp only [perform, run_bind, run_rescope]
      rcases workspace.scopes.enter pairs with ⟨scopes, none | fault⟩ <;>
        exact ⟨rfl, rfl, Nat.le_refl _⟩
  | leaveScope failing =>
      simp only [perform, run_bind, run_rescope]
      rcases workspace.scopes.leave with ⟨scopes, none | fault⟩
      · cases failing <;> exact ⟨rfl, rfl, Nat.le_refl _⟩
      · exact ⟨rfl, rfl, Nat.le_refl _⟩
  | document name command => cases plain
  | _ =>
      exact (draws_perform _ plain (by simp) (by simp) (by simp) workspace).toKeepsDocuments

theorem run_caught {α : Type} (action : Action α) :
    (tryCatch (Except.ok <$> action) fun fault => return .error fault :
      Action (Except Fault α)).runOn workspace =
      (.ok (action.runOn workspace).1, (action.runOn workspace).2) := by
  rw [run_try_catch, run_map]
  rcases action.runOn workspace with ⟨fault | value, after⟩ <;> rfl

/-- Options of a command's own hold while it runs, however it ends. -/
theorem run_within {α : Type} (pairs : List (String × Datum)) (action : Action α) :
    (within pairs action).runOn workspace =
      match workspace.options.override pairs with
      | (inner, .error fault) => (.error fault, workspace.withOptions inner)
      | (inner, .ok kept) =>
          let ran := action.runOn (workspace.withOptions inner)
          (ran.1, ran.2.restore kept) := by
  simp only [within, run_bind, run_options, run_modify, run_of_except, run_caught]
  rcases workspace.options.override pairs with ⟨inner, fault | kept⟩ <;> rfl

end Action

end InlineFormula
