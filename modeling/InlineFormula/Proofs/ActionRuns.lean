import InlineFormula.Workspace.Perform

/-!
Runs of actions. What an action gives and leaves behind follows step by step from the actions it
is made of; those that build what a command describes leave all but the number of identifiers,
the warnings and the log as it was.
-/

set_option autoImplicit false

namespace InlineFormula

structure Workspace.KeepsDocuments (before after : Workspace) : Prop where
  configurations : after.configurations = before.configurations
  documents : after.documents = before.documents
  drawn : before.drawn ≤ after.drawn

structure Workspace.OnlyDraws (before after : Workspace) : Prop
    extends Workspace.KeepsDocuments before after where
  scopes : after.scopes = before.scopes

namespace Workspace.OnlyDraws

theorem refl (workspace : Workspace) : workspace.OnlyDraws workspace :=
  ⟨⟨rfl, rfl, Nat.le_refl _⟩, rfl⟩

theorem trans {first second third : Workspace} (front : first.OnlyDraws second)
    (back : second.OnlyDraws third) : first.OnlyDraws third :=
  ⟨⟨back.configurations.trans front.configurations, back.documents.trans front.documents,
    Nat.le_trans front.drawn back.drawn⟩, back.scopes.trans front.scopes⟩

end Workspace.OnlyDraws

namespace Draft

mutual
/-- The number of identifiers drawn never goes back, also when a draft is refused. -/
theorem build_drawn_le : (drawn : Nat) → (draft : Draft) → drawn ≤ (draft.build drawn).2
  | drawn, ⟨kind, value, children, id⟩ => by
      have below := build_all_drawn_le drawn children
      rw [build]
      split
      case h_1 fault later built =>
        rw [built] at below
        exact below
      case h_2 elements later built =>
        rw [built] at below
        cases id with
        | some id => exact below
        | none => exact Nat.le_succ_of_le below

theorem build_all_drawn_le : (drawn : Nat) → (drafts : List Draft) →
    drawn ≤ (buildAll drawn drafts).2
  | drawn, [] => Nat.le_refl drawn
  | drawn, draft :: rest => by
      have first := build_drawn_le drawn draft
      rw [buildAll]
      split
      case h_1 fault later built =>
        rw [built] at first
        exact first
      case h_2 element later built =>
        rw [built] at first
        have others := build_all_drawn_le later rest
        split
        case h_1 fault last builtRest =>
          rw [builtRest] at others
          exact Nat.le_trans first others
        case h_2 elements last builtRest =>
          rw [builtRest] at others
          exact Nat.le_trans first others
end

end Draft

def Source.build (options : Options) (drawn : Nat) :
    Source → Draft.Drawing (List (Element Id))
  | .drafts given => Draft.buildAll drawn given
  | .text given => options.readFormula drawn given

theorem Source.build_drawn_le (options : Options) (drawn : Nat) (source : Source) :
    drawn ≤ (source.build options drawn).2 := by
  cases source with
  | drafts given => exact Draft.build_all_drawn_le drawn given
  | text given => exact options.read_formula_drawn_le drawn given

namespace Action

variable {α β : Type}

def runOn (action : Action α) (workspace : Workspace) : Except Fault α × Workspace :=
  action.run.run workspace

theorem run_pure (value : α) (workspace : Workspace) :
    (pure value : Action α).runOn workspace = (.ok value, workspace) := rfl

theorem run_get (workspace : Workspace) :
    (get : Action Workspace).runOn workspace = (.ok workspace, workspace) := rfl

theorem run_modify (change : Workspace → Workspace) (workspace : Workspace) :
    (modify change : Action Unit).runOn workspace = (.ok (), change workspace) := rfl

theorem run_bind (action : Action α) (next : α → Action β) (workspace : Workspace) :
    (action >>= next).runOn workspace =
      match action.runOn workspace with
      | (.ok value, after) => (next value).runOn after
      | (.error fault, after) => (.error fault, after) := by
  show (ExceptT.bindCont next (action.runOn workspace).1).run (action.runOn workspace).2 = _
  rcases action.runOn workspace with ⟨result, after⟩
  cases result <;> rfl

theorem run_try_catch (action : Action α) (handle : Fault → Action α) (workspace : Workspace) :
    (tryCatch action handle).runOn workspace =
      match action.runOn workspace with
      | (.ok value, after) => (.ok value, after)
      | (.error fault, after) => (handle fault).runOn after := by
  simp only [runOn, tryCatch, tryCatchThe, MonadExceptOf.tryCatch, ExceptT.tryCatch,
    ExceptT.run_mk, StateT.run_bind]
  rcases ran : action.run.run workspace with ⟨fault | value, after⟩
  all_goals
    rw [show StateT.run action workspace = _ from ran]
    rfl

theorem run_map (change : α → β) (action : Action α) (workspace : Workspace) :
    (change <$> action).runOn workspace =
      ((action.runOn workspace).1.map change, (action.runOn workspace).2) := by
  rw [map_eq_pure_bind, run_bind]
  rcases action.runOn workspace with ⟨result, after⟩
  cases result <;> rfl

theorem run_of_except (result : Except Fault α) (workspace : Workspace) :
    (ofExcept result).runOn workspace = (result, workspace) := by
  cases result <;> rfl

theorem run_options (workspace : Workspace) :
    options.runOn workspace = (.ok workspace.options, workspace) := rfl

theorem run_drawing (draw : Nat → Draft.Drawing α) (workspace : Workspace) :
    (drawing draw).runOn workspace =
      ((draw workspace.drawn).1, { workspace with drawn := (draw workspace.drawn).2 }) := by
  simp only [drawing, run_bind, run_get, run_modify, run_of_except]

theorem run_build_elements (source : Source) (workspace : Workspace) :
    (buildElements source).runOn workspace =
      ((source.build workspace.options workspace.drawn).1,
        { workspace with drawn := (source.build workspace.options workspace.drawn).2 }) := by
  cases source with
  | drafts given => exact run_drawing (fun drawn => Draft.buildAll drawn given) workspace
  | text given =>
      simp only [buildElements, parse, run_bind, run_options, run_drawing]
      rfl

theorem run_readable (text : String) (workspace : Workspace) :
    (readable text).runOn workspace =
      ((workspace.options.readable workspace.drawn text).1,
        { workspace with drawn := (workspace.options.readable workspace.drawn text).2 }) := by
  simp only [readable, run_bind, run_options, run_drawing]

theorem run_rescope (change : Scopes → Scopes × Option Fault) (workspace : Workspace) :
    (rescope change).runOn workspace =
      ((change workspace.scopes).2.elim (.ok ()) .error,
        { workspace with scopes := (change workspace.scopes).1 }) := by
  simp only [rescope, run_bind, run_get, run_modify]
  rcases change workspace.scopes with ⟨scopes, none | fault⟩ <;> rfl

/-- Actions that may be cut short without a trace in settings or documents. -/
def Draws (action : Action α) : Prop :=
  ∀ workspace : Workspace, workspace.OnlyDraws (action.runOn workspace).2

theorem draws_pure (value : α) : Draws (pure value : Action α) :=
  fun workspace => .refl workspace

theorem draws_of_except (result : Except Fault α) : Draws (ofExcept result) := by
  intro workspace
  rw [run_of_except]
  exact .refl workspace

theorem draws_throw (fault : Fault) : Draws (throw fault : Action α) :=
  fun workspace => .refl workspace

theorem draws_bind {action : Action α} {next : α → Action β} (first : Draws action)
    (rest : ∀ value, Draws (next value)) : Draws (action >>= next) := by
  intro workspace
  have front := first workspace
  rw [run_bind]
  rcases ran : action.runOn workspace with ⟨result, after⟩
  rw [ran] at front
  cases result with
  | error fault => exact front
  | ok value => exact front.trans (rest value after)

theorem draws_map (change : α → β) {action : Action α} (draws : Draws action) :
    Draws (change <$> action) := by
  intro workspace
  rw [run_map]
  exact draws workspace

theorem draws_get : Draws (get : Action Workspace) := fun workspace => .refl workspace

theorem draws_options : Draws options := fun workspace => .refl workspace

theorem draws_settings : Draws settings := fun workspace => .refl workspace

theorem draws_drawing (draw : Nat → Draft.Drawing α) (grows : ∀ drawn, drawn ≤ (draw drawn).2) :
    Draws (drawing draw) := by
  intro workspace
  rw [run_drawing]
  exact ⟨⟨rfl, rfl, grows workspace.drawn⟩, rfl⟩

theorem draws_parse (text : String) : Draws (parse text) :=
  draws_bind draws_options fun options => draws_drawing _ fun drawn =>
    options.read_formula_drawn_le drawn text

theorem draws_copy (element : Element Id) : Draws (copy element) :=
  draws_drawing _ fun _ => Nat.le_add_right _ _

theorem draws_build_element (draft : Draft) : Draws (buildElement draft) :=
  draws_drawing _ fun drawn => draft.build_drawn_le drawn

theorem draws_build_elements (source : Source) : Draws (buildElements source) := by
  intro workspace
  rw [run_build_elements]
  exact ⟨⟨rfl, rfl, source.build_drawn_le _ _⟩, rfl⟩

theorem draws_warn (warning : Option Warning) : Draws (warn warning) :=
  fun _ => ⟨⟨rfl, rfl, Nat.le_refl _⟩, rfl⟩

theorem draws_note (entries : List LogEntry) : Draws (note entries) :=
  fun _ => ⟨⟨rfl, rfl, Nat.le_refl _⟩, rfl⟩

theorem draws_build_rule (draft : RuleDraft) : Draws (buildRule draft) :=
  draws_bind draws_settings fun _ => draws_bind (draws_of_except _) fun _ =>
    draws_bind (draws_warn _) fun _ => draws_pure _

theorem draws_build_rules (drafts : List RuleDraft) : Draws (buildRules drafts) := by
  rw [buildRules]
  induction drafts with
  | nil => exact draws_pure _
  | cons draft rest induction =>
      rw [List.mapM_cons]
      exact draws_bind (draws_build_rule draft) fun _ => draws_bind induction fun _ =>
        draws_pure _

theorem draws_tabulate (verdict : Verdict) : Draws (tabulate verdict) := by
  refine draws_bind draws_get fun workspace => ?_
  split
  · exact draws_pure _
  · exact draws_bind (draws_warn _) fun _ => draws_throw _

theorem draws_validate (text : String) (elements : List (Element Id)) (rules : List Rule) :
    Draws (validate text elements rules) :=
  draws_bind draws_settings fun _ => draws_bind (draws_of_except _) fun _ =>
    draws_bind (draws_note _) fun _ => draws_pure _

end Action

end InlineFormula
