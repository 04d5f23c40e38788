import InlineFormula.Proofs.OptionChanges
import InlineFormula.Proofs.SessionRuns

/-!
Scopes in runs. Only three commands move scopes, and one that is refused closes none and opens
none. A run that leaves every scope it opened keeps what the scopes around it will bring back; so
leaving those brings back all options, whatever the run set and however it failed, unless the table
by which options are told was replaced before.
-/

set_option autoImplicit false

namespace InlineFormula

namespace Command

def moveScopes (scopes : Scopes) : Command → Scopes
  | assignSettings pairs => (scopes.assign pairs).1
  | enterScope pairs => (scopes.enter pairs).1
  | leaveScope _ => scopes.leave.1
  | _ => scopes

def bounds : Command → Bool
  | enterScope _ | leaveScope _ => true
  | _ => false

theorem move_scopes_kept (scopes : Scopes) (command : Command)
    (inside : command.bounds = false) : (command.moveScopes scopes).kept = scopes.kept := by
  cases command with
  | enterScope _ | leaveScope _ => cases inside
  | _ => rfl

end Command

namespace Action

theorem perform_scopes (command : Command) (workspace : Workspace) :
    ((perform command).runOn workspace).2.scopes = command.moveScopes workspace.scopes := by
  cases command with
  | assignSettings pairs =>
      simp only [perform, run_bind, run_rescope, Command.moveScopes]
      rcases workspace.scopes.assign pairs with ⟨scopes, none | fault⟩ <;> rfl
  | enterScope pairs =>
      simp only [perform, run_bind, run_rescope, Command.moveScopes]
      rcases workspace.scopes.enter pairs with ⟨scopes, none | fault⟩ <;> rfl
  | leaveScope failing =>
      simp only [perform, run_bind, run_rescope, Command.moveScopes]
      rcases workspace.scopes.leave with ⟨scopes, none | fault⟩
      · cases failing <;> rfl
      · rfl
  | document name command => exact (perform_effect name workspace command).frame.1
  | _ => exact (draws_perform _ rfl (by simp) (by simp) (by simp) workspace).scopes

variable (workspace : Workspace) (pairs : List (String × Datum))

theorem enter_opened (reply : Answer)
    (opened : ((perform (.enterScope pairs)).runOn workspace).1 = .ok reply) :
    ∃ inner kept, workspace.options.override pairs = (inner, .ok kept) ∧
      ((perform (.enterScope pairs)).runOn workspace).2.scopes =
        { current := inner, kept := kept :: workspace.scopes.kept } := by
  rw [perform_scopes, Command.moveScopes, Scopes.enter, workspace.scopes_current]
  simp only [perform, run_bind, run_rescope, Scopes.enter, workspace.scopes_current] at opened
  rcases overridden : workspace.options.override pairs with ⟨inner, fault | kept⟩
  · rw [overridden] at opened
    cases opened
  · exact ⟨inner, kept, rfl, rfl⟩

theorem enter_refused (fault : Fault)
    (refused : ((perform (.enterScope pairs)).runOn workspace).1 = .error fault) :
    ∃ inner, workspace.options.override pairs = (inner, .error fault) ∧
      ((perform (.enterScope pairs)).runOn workspace).2.scopes =
        { current := inner, kept := workspace.scopes.kept } := by
  rw [perform_scopes, Command.moveScopes, Scopes.enter, workspace.scopes_current]
  simp only [perform, run_bind, run_rescope, Scopes.enter, workspace.scopes_current] at refused
  rcases overridden : workspace.options.override pairs with ⟨inner, raised | kept⟩
  · rw [overridden] at refused
    cases refused
    exact ⟨inner, rfl, rfl⟩
  · rw [overridden] at refused
    cases refused

end Action

namespace Step

def own : Step → Option (List (String × Datum))
  | command own _ => own
  | session own _ => own

/-- Runs from a workspace that leave every scope they open and no other. A scope that does not
open is not left. -/
inductive Nested : Workspace → List Step → Prop where
  | done (workspace : Workspace) : Nested workspace []
  | plain (workspace : Workspace) (own : Option (List (String × Datum))) (command : Command)
      (rest : List Step) (inside : command.bounds = false)
      (later : Nested (workspace.perform own command).2 rest) :
      Nested workspace (.command own command :: rest)
  | refused (workspace : Workspace) (own : Option (List (String × Datum)))
      (pairs : List (String × Datum)) (rest : List Step) (fault : Fault)
      (answered : (workspace.perform own (.enterScope pairs)).1.answer = .error fault)
      (later : Nested (workspace.perform own (.enterScope pairs)).2 rest) :
      Nested workspace (.command own (.enterScope pairs) :: rest)
  | scope (workspace : Workspace) (pairs : List (String × Datum)) (body : List Step)
      (failing : Bool) (rest : List Step) (reply : Answer)
      (opened : (workspace.perform none (.enterScope pairs)).1.answer = .ok reply)
      (within : Nested (workspace.perform none (.enterScope pairs)).2 body)
      (later : Nested (((workspace.perform none (.enterScope pairs)).2.runAll body).2.perform none
        (.leaveScope failing)).2 rest) :
      Nested workspace (.command none (.enterScope pairs) ::
        (body ++ .command none (.leaveScope failing) :: rest))
  | session (workspace : Workspace) (body rest : List Step) (within : Nested workspace body)
      (later : Nested (workspace.runAll body).2 rest) :
      Nested workspace (.session none body :: rest)
  | sessionWith (workspace : Workspace) (pairs : List (String × Datum)) (body rest : List Step)
      (within : ∀ inner kept, workspace.options.override pairs = (inner, .ok kept) →
        Nested (workspace.withOptions inner) body)
      (later : Nested (workspace.run (.session (some pairs) body)).2 rest) :
      Nested workspace (.session (some pairs) body :: rest)

end Step

namespace Workspace

theorem perform_kept (workspace : Workspace) (own : Option (List (String × Datum)))
    (command : Command)
    (stays : ∀ (before : Workspace) (answer : Except Fault Answer),
      ((Action.perform command).runOn before).1 = answer →
      (workspace.perform own command).1.answer = answer →
        ((Action.perform command).runOn before).2.scopes.kept = before.scopes.kept) :
    (workspace.perform own command).2.scopes.kept = workspace.scopes.kept := by
  cases own with
  | none => exact stays workspace.fresh _ rfl rfl
  | some pairs =>
      have answered (before : Workspace) : (before.perform (some pairs) command).1.answer =
          ((Action.within pairs (Action.perform command)).runOn before.fresh).1 := rfl
      simp only [answered, Action.run_within] at stays
      rw [perform_after_within, Action.run_within]
      split
      case h_1 => rfl
      case h_2 inner kept overridden =>
        rw [overridden] at stays
        exact stays (workspace.fresh.withOptions inner) _ rfl rfl

theorem perform_refused_kept (workspace : Workspace) (own : Option (List (String × Datum)))
    (pairs : List (String × Datum)) (fault : Fault)
    (refused : (workspace.perform own (.enterScope pairs)).1.answer = .error fault) :
    (workspace.perform own (.enterScope pairs)).2.scopes.kept = workspace.scopes.kept := by
  apply workspace.perform_kept own
  intro before answer ran answered
  rw [refused] at answered
  rw [← answered] at ran
  obtain ⟨inner, -, left⟩ := Action.enter_refused before pairs fault ran
  rw [left]

/-- Leaving brings back what the innermost open scope keeps, failing or not. -/
theorem perform_leave_kept (workspace : Workspace) (outer : List (String × Datum))
    (others : List (List (String × Datum))) (failing : Bool)
    (kept : workspace.scopes.kept = outer :: others) :
    (workspace.perform none (.leaveScope failing)).1.answer =
        (if failing then .error .insideScope else .ok (.depth others.length)) ∧
      (workspace.perform none (.leaveScope failing)).2.scopes =
        { current := workspace.options.restore outer, kept := others } := by
  have left : workspace.scopes.leave =
      ({ current := workspace.options.restore outer, kept := others }, none) := by
    rw [Scopes.leave, kept]
    rfl
  constructor
  · simp only [perform_answer, Action.perform, Action.run_bind, Action.run_rescope, fresh_scopes,
      left]
    cases failing <;> rfl
  · rw [perform_after, Action.perform_scopes, Command.moveScopes, fresh_scopes, left]

theorem run_nested_kept (workspace : Workspace) (steps : List Step)
    (nested : Step.Nested workspace steps) :
    (workspace.runAll steps).2.scopes.kept = workspace.scopes.kept := by
  induction nested with
  | done workspace => rfl
  | plain workspace own command rest inside later induction =>
      rw [run_all_cons]
      refine induction.trans (workspace.perform_kept own command ?_)
      intro before answer ran answered
      rw [Action.perform_scopes]
      exact command.move_scopes_kept before.scopes inside
  | refused workspace own pairs rest fault answered later induction =>
      rw [run_all_cons]
      exact induction.trans (workspace.perform_refused_kept own pairs fault answered)
  | scope workspace pairs body failing rest reply opened within later insideKept laterKept =>
      -- The inner scope lies on top of the outer ones from its opening to its end.
      obtain ⟨inner, kept, -, entered⟩ := Action.enter_opened workspace.fresh pairs reply opened
      rw [perform_after, entered] at insideKept
      have closed := perform_leave_kept _ kept workspace.scopes.kept failing insideKept
      have left := congrArg Scopes.kept closed.2
      rw [run_all_cons, run_all_append, run_all_cons]
      exact laterKept.trans left
  | session workspace body rest within later insideKept laterKept =>
      rw [run_all_cons]
      exact laterKept.trans insideKept
  | sessionWith workspace pairs body rest within later insideKept laterKept =>
      rw [run_all_cons]
      refine laterKept.trans ?_
      rw [run]
      split
      case h_1 => rfl
      case h_2 inner kept overridden => exact insideKept inner kept overridden

/-- A scope lies on top of the others until it is left. -/
theorem leave_opened (workspace : Workspace) (pairs : List (String × Datum)) (reply : Answer)
    (opened : (workspace.perform none (.enterScope pairs)).1.answer = .ok reply)
    (body : List Step) (failing : Bool)
    (nested : Step.Nested (workspace.perform none (.enterScope pairs)).2 body) :
    let inside := ((workspace.perform none (.enterScope pairs)).2.runAll body).2
    ∃ inner kept, workspace.options.override pairs = (inner, .ok kept) ∧
      (inside.perform none (.leaveScope failing)).1.answer =
        (if failing then .error .insideScope else .ok (.depth workspace.scopes.depth)) ∧
      (inside.perform none (.leaveScope failing)).2.scopes =
        { current := inside.options.restore kept, kept := workspace.scopes.kept } := by
  intro inside
  obtain ⟨inner, kept, overridden, entered⟩ :=
    Action.enter_opened workspace.fresh pairs reply opened
  have below := run_nested_kept _ body nested
  rw [perform_after, entered] at below
  exact ⟨inner, kept, overridden, inside.perform_leave_kept kept _ failing below⟩

/-- Options that a step brings are taken back at its end, whatever it did to them. -/
theorem run_own_same (workspace : Workspace) (pairs : List (String × Datum)) (step : Step)
    (brings : step.own = some pairs) (tells : ¬workspace.options.Untold) :
    workspace.options.Same (workspace.run step).2.options := by
  cases step with
  | command own command =>
      cases brings
      show workspace.options.Same (workspace.perform (some pairs) command).2.options
      rw [perform_after_within, Action.run_within]
      split
      case h_1 inner fault overridden =>
        exact workspace.options.override_error_same pairs inner fault overridden tells
      case h_2 inner kept overridden =>
        exact workspace.options.override_ok_same pairs inner kept overridden tells _
  | session own steps =>
      cases brings
      rw [run]
      split
      case h_1 inner fault overridden =>
        exact workspace.options.override_error_same pairs inner fault overridden tells
      case h_2 inner kept overridden =>
        exact workspace.options.override_ok_same pairs inner kept overridden tells _

end Workspace

/-- Whatever a nested run does inside a scope, leaving the scope brings back all options and
closes no other; a scope that is not opened changes none; and what a step brings for itself is
gone at its end. Only where the table by which options are told was replaced by an empty one,
leaving a scope brings back nothing. -/
theorem scope_brings_back_settings (workspace : Workspace) (pairs : List (String × Datum)) :
    (¬workspace.options.Untold →
      (∀ reply, (workspace.perform none (.enterScope pairs)).1.answer = .ok reply →
        ∀ (body : List Step) (failing : Bool),
          Step.Nested (workspace.perform none (.enterScope pairs)).2 body →
          let inside := ((workspace.perform none (.enterScope pairs)).2.runAll body).2
          let outside := (inside.perform none (.leaveScope failing)).2
          (inside.perform none (.leaveScope failing)).1.answer =
              (if failing then .error .insideScope else .ok (.depth workspace.scopes.depth)) ∧
            workspace.options.Same outside.options ∧
            outside.scopes.kept = workspace.scopes.kept) ∧
      (∀ fault, (workspace.perform none (.enterScope pairs)).1.answer = .error fault →
        let refused := (workspace.perform none (.enterScope pairs)).2
        workspace.options.Same refused.options ∧ refused.scopes.kept = workspace.scopes.kept) ∧
      ∀ step : Step, step.own = some pairs → Step.Nested workspace [step] →
        workspace.options.Same (workspace.run step).2.options ∧
          (workspace.run step).2.scopes.kept = workspace.scopes.kept) ∧
    (workspace.options.Untold →
      ∀ reply, (workspace.perform none (.enterScope pairs)).1.answer = .ok reply →
        ∀ (body : List Step) (failing : Bool),
          Step.Nested (workspace.perform none (.enterScope pairs)).2 body →
          let inside := ((workspace.perform none (.enterScope pairs)).2.runAll body).2
          (inside.perform none (.leaveScope failing)).2.options = inside.options) := by
  refine ⟨fun tells => ⟨?_, ?_, ?_⟩, ?_⟩
  · intro reply opened body failing nested inside outside
    obtain ⟨inner, kept, overridden, answered, left⟩ :=
      workspace.leave_opened pairs reply opened body failing nested
    have back := workspace.options.override_ok_same pairs inner kept overridden tells
    have keeps := congrArg Scopes.kept left
    refine ⟨answered, ?_, keeps⟩
    show workspace.options.Same outside.scopes.current
    rw [left]
    exact back inside.options
  · intro fault answered refused
    obtain ⟨inner, overridden, left⟩ := Action.enter_refused workspace.fresh pairs fault answered
    have same := workspace.options.override_error_same pairs inner fault overridden tells
    have keeps := congrArg Scopes.kept left
    refine ⟨?_, keeps⟩
    show workspace.options.Same refused.scopes.current
    exact left ▸ same
  · intro step brings nested
    exact ⟨workspace.run_own_same pairs step brings tells,
      Workspace.run_nested_kept workspace [step] nested⟩
  · intro untold reply opened body failing nested inside
    obtain ⟨inner, kept, overridden, -, left⟩ :=
      workspace.leave_opened pairs reply opened body failing nested
    have nothing := workspace.options.override_untold pairs inner kept overridden untold
    show (inside.perform none (.leaveScope failing)).2.scopes.current = inside.options
    rw [left, nothing]
    rfl

def unsettlingRun : List Step :=
  [.command none (.assignSettings [("operators", .text "+"), ("colour", .text "red")]),
   .command none (.enterScope [("unknown_rule", .text "ignore"), ("brackets", .text "(")]),
   .command none (.enterScope [("operators", .text "-")]),
   .command none (.assignSettings [("__dict__", .object [])]),
   .command none (.leaveScope true)]

def unsettled : Workspace :=
  ((({} : Workspace).perform none (.enterScope [("brackets", .text "()")])).2.runAll
    unsettlingRun).2

def silenced : Workspace :=
  (({} : Workspace).perform none (.assignSettings [("__dataclass_fields__", .object [])])).2

theorem unsettling_run_nested : Step.Nested
    (({} : Workspace).perform none (.enterScope [("brackets", .text "()")])).2 unsettlingRun := by
  refine .plain _ none _ _ rfl (.refused _ none _ _ .unpairedBrackets rfl ?_)
  exact .scope _ _ [.command none (.assignSettings [("__dict__", .object [])])] true []
    (.depth 2) rfl (.plain _ none _ _ rfl (.done _)) (.done _)

theorem scope_brings_back_settings_unsettled :
    ¬({} : Workspace).options.Untold ∧
      (({} : Workspace).perform none (.enterScope [("brackets", .text "()")])).1.answer =
        .ok (.depth 1) ∧
      unsettled.options.value "operators" = some (.text "+") ∧
      ({} : Workspace).options.Same (unsettled.perform none (.leaveScope true)).2.options ∧
      silenced.options.Untold ∧
      ((silenced.perform none (.enterScope [("operators", .text "#")])).2.perform none
        (.leaveScope false)).2.options.value "operators" = some (.text "#") := by
  have tells : ¬({} : Workspace).options.Untold := nofun
  have untold : silenced.options.Untold := rfl
  have laws := scope_brings_back_settings {} [("brackets", .text "()")]
  have silent := (scope_brings_back_settings silenced [("operators", .text "#")]).2 untold
    (.depth 1) rfl [] false (.done _)
  refine ⟨tells, rfl, rfl, ?_, untold, ?_⟩
  · exact ((laws.1 tells).1 (.depth 1) rfl unsettlingRun true unsettling_run_nested).2.1
  · exact congrArg (fun options => options.value "operators") silent

/-- With an empty table of fields, the operators of a scope stay in force behind it. -/
theorem settings_not_always_brought_back :
    ¬∀ (steps : List Step) (pairs : List (String × Datum)) (body : List Step) (failing : Bool)
        (reply : Answer),
      let before := (({} : Workspace).runAll steps).2
      let opened := before.perform none (.enterScope pairs)
      opened.1.answer = .ok reply → Step.Nested opened.2 body →
        before.options.Same
          ((opened.2.runAll body).2.perform none (.leaveScope failing)).2.options := by
  intro always
  have same := always
    [.command none (.assignSettings [("__dataclass_fields__", .object [])])]
    [("operators", .text "#")] [] false (.depth 1) rfl (.done _) "operators" (by decide)
  have operators : "#" = "+-×÷*/=" := Datum.text.inj (Option.some.inj same)
  exact absurd operators (by decide)

end InlineFormula
