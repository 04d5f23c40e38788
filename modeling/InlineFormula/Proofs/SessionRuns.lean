import InlineFormula.Proofs.CommandEffects

/-!
Runs of sessions. What each command keeps, and a change of options around a command or a session
does not spoil, holds throughout every run, however its sessions are nested.
-/

set_option autoImplicit false

namespace InlineFormula

mutual
def Step.Only (allowed : Command → Prop) : Step → Prop
  | .command _ given => allowed given
  | .session _ steps => AllOnly allowed steps

def Step.AllOnly (allowed : Command → Prop) : List Step → Prop
  | [] => True
  | step :: rest => step.Only allowed ∧ AllOnly allowed rest
end

mutual
theorem Step.only_of_forall (allowed : Command → Prop) (all : ∀ command, allowed command) :
    (step : Step) → step.Only allowed
  | .command _ given => all given
  | .session _ steps => all_only_of_forall allowed all steps

theorem Step.all_only_of_forall (allowed : Command → Prop) (all : ∀ command, allowed command) :
    (steps : List Step) → AllOnly allowed steps
  | [] => trivial
  | step :: rest => ⟨only_of_forall allowed all step, all_only_of_forall allowed all rest⟩
end

mutual
def Step.Brings (fit : List (String × Datum) → Prop) : Step → Prop
  | .command own _ => ∀ pairs ∈ own, fit pairs
  | .session own steps => (∀ pairs ∈ own, fit pairs) ∧ AllBring fit steps

def Step.AllBring (fit : List (String × Datum) → Prop) : List Step → Prop
  | [] => True
  | step :: rest => step.Brings fit ∧ AllBring fit rest
end

mutual
theorem Step.brings_of_forall (fit : List (String × Datum) → Prop) (all : ∀ pairs, fit pairs) :
    (step : Step) → step.Brings fit
  | .command _ _ => fun pairs _ => all pairs
  | .session _ steps => ⟨fun pairs _ => all pairs, all_bring_of_forall fit all steps⟩

theorem Step.all_bring_of_forall (fit : List (String × Datum) → Prop) (all : ∀ pairs, fit pairs) :
    (steps : List Step) → AllBring fit steps
  | [] => trivial
  | step :: rest => ⟨brings_of_forall fit all step, all_bring_of_forall fit all rest⟩
end

namespace Workspace

def fresh (workspace : Workspace) : Workspace := { workspace with warnings := [], log := [] }

@[simp] theorem fresh_scopes (workspace : Workspace) : workspace.fresh.scopes = workspace.scopes :=
  rfl

@[simp] theorem fresh_options (workspace : Workspace) :
    workspace.fresh.options = workspace.options := rfl

@[simp] theorem fresh_drawn (workspace : Workspace) : workspace.fresh.drawn = workspace.drawn :=
  rfl

theorem perform_eq (workspace : Workspace) (command : Command) :
    workspace.perform none command =
      let ran := (Action.perform command).runOn workspace.fresh
      ({ answer := ran.1
         warnings := ran.2.warnings
         log := ran.2.log
         document := (command.documentName?.bind ran.2.find?).map Holding.document }, ran.2) :=
  rfl

theorem perform_answer (workspace : Workspace) (command : Command) :
    (workspace.perform none command).1.answer =
      ((Action.perform command).runOn workspace.fresh).1 := rfl

theorem perform_after (workspace : Workspace) (command : Command) :
    (workspace.perform none command).2 = ((Action.perform command).runOn workspace.fresh).2 := rfl

theorem perform_after_within (workspace : Workspace) (pairs : List (String × Datum))
    (command : Command) :
    (workspace.perform (some pairs) command).2 =
      ((Action.within pairs (Action.perform command)).runOn workspace.fresh).2 := rfl

theorem run_all_cons (workspace : Workspace) (step : Step) (rest : List Step) :
    (workspace.runAll (step :: rest)).2 = ((workspace.run step).2.runAll rest).2 := by
  rw [runAll]

theorem run_all_append (workspace : Workspace) (front back : List Step) :
    (workspace.runAll (front ++ back)).2 = ((workspace.runAll front).2.runAll back).2 := by
  induction front generalizing workspace with
  | nil => rfl
  | cons step rest induction => exact induction _

/-- What a property of workspaces has to satisfy to hold throughout runs of allowed commands, in
which steps bring options of a kind. -/
structure Lasting (allowed : Command → Prop) (brings : List (String × Datum) → Prop)
    (holds : Workspace → Prop) : Prop where
  anew : ∀ workspace : Workspace, holds workspace → holds workspace.fresh
  inside : ∀ (workspace : Workspace) pairs inner answer, brings pairs →
    workspace.options.override pairs = (inner, answer) → holds workspace →
      holds (workspace.withOptions inner)
  outside : ∀ (workspace after : Workspace) pairs inner kept, brings pairs →
    workspace.options.override pairs = (inner, .ok kept) → holds workspace → holds after →
      holds (after.restore kept)
  performed : ∀ (workspace : Workspace) command, allowed command → holds workspace →
    holds ((Action.perform command).runOn workspace).2

namespace Lasting

variable {allowed : Command → Prop} {brings : List (String × Datum) → Prop}
variable {holds : Workspace → Prop}

theorem perform (lasting : Lasting allowed brings holds) (workspace : Workspace)
    (own : Option (List (String × Datum))) (command : Command) (kind : allowed command)
    (brought : ∀ pairs ∈ own, brings pairs) (before : holds workspace) :
    holds (workspace.perform own command).2 := by
  have start := lasting.anew workspace before
  cases own with
  | none => exact lasting.performed workspace.fresh command kind start
  | some pairs =>
      have fit := brought pairs rfl
      rw [perform_after_within, Action.run_within]
      split
      case h_1 inner fault overridden =>
        exact lasting.inside workspace.fresh pairs inner _ fit overridden start
      case h_2 inner kept overridden =>
        have opened := lasting.inside workspace.fresh pairs inner _ fit overridden start
        exact lasting.outside workspace.fresh _ pairs inner kept fit overridden start
          (lasting.performed _ command kind opened)

mutual
theorem run (lasting : Lasting allowed brings holds) : (step : Step) → (workspace : Workspace) →
    step.Only allowed → step.Brings brings → holds workspace → holds (workspace.run step).2
  | .command own command, workspace, kind, brought, before =>
      lasting.perform workspace own command kind brought before
  | .session none steps, workspace, kinds, brought, before =>
      run_all lasting steps workspace kinds brought.2 before
  | .session (some pairs) steps, workspace, kinds, brought, before => by
      have fit := brought.1 pairs rfl
      rw [Workspace.run]
      split
      case h_1 inner fault overridden =>
        exact lasting.inside workspace pairs inner _ fit overridden before
      case h_2 inner kept overridden =>
        have opened := lasting.inside workspace pairs inner _ fit overridden before
        exact lasting.outside workspace _ pairs inner kept fit overridden before
          (run_all lasting steps _ kinds brought.2 opened)

theorem run_all (lasting : Lasting allowed brings holds) : (steps : List Step) →
    (workspace : Workspace) → Step.AllOnly allowed steps → Step.AllBring brings steps →
    holds workspace → holds (workspace.runAll steps).2
  | [], _, _, _, before => before
  | step :: rest, workspace, kinds, brought, before =>
      run_all lasting rest _ kinds.2 brought.2
        (run lasting step workspace kinds.1 brought.1 before)
end

end Lasting

end Workspace

end InlineFormula
