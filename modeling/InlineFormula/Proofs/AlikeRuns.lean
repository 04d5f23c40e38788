import InlineFormula.Proofs.AlikeActions
import InlineFormula.Proofs.SessionRuns
import InlineFormula.Rule.Predicates

/-!
Runs that differ in identifiers only. Whatever is performed on two workspaces that are alike but
for identifiers and their number, no answer, fault, warning, note or verdict hangs on them.
-/

set_option autoImplicit false

namespace InlineFormula

namespace Step

mutual
def withoutIds : Step → Step
  | .command own given => .command own given.withoutIds
  | .session own steps => .session own (allWithoutIds steps)

def allWithoutIds : List Step → List Step
  | [] => []
  | step :: rest => step.withoutIds :: allWithoutIds rest
end

mutual
theorem only_ignores_without_ids : (step : Step) →
    (step.withoutIds.Only Command.IgnoresIds ↔ step.Only Command.IgnoresIds)
  | .command _ given => given.ignores_ids_without_ids
  | .session _ steps => all_only_ignores_without_ids steps

theorem all_only_ignores_without_ids : (steps : List Step) →
    (AllOnly Command.IgnoresIds (allWithoutIds steps) ↔ AllOnly Command.IgnoresIds steps)
  | [] => Iff.rfl
  | step :: rest =>
      and_congr (only_ignores_without_ids step) (all_only_ignores_without_ids rest)
end

end Step

def Report.renumbered (report : Report) : Report :=
  { report with
    answer := report.answer.map Answer.renumbered
    document := report.document.map Document.renumbered }

theorem Report.renumbered_eq {left right : Report}
    (answer : left.answer.map Answer.renumbered = right.answer.map Answer.renumbered)
    (warnings : left.warnings = right.warnings) (log : left.log = right.log)
    (document : left.document.map Document.renumbered = right.document.map Document.renumbered) :
    left.renumbered = right.renumbered := by
  rw [renumbered, renumbered, answer, warnings, log, document]

mutual
def StepReport.renumbered : StepReport → StepReport
  | .command report => .command report.renumbered
  | .session steps => .session (StepReport.allRenumbered steps)
  | .refused fault => .refused fault

def StepReport.allRenumbered : List StepReport → List StepReport
  | [] => []
  | step :: rest => step.renumbered :: StepReport.allRenumbered rest
end

/-- Options of a command's own come and go alike. -/
theorem Action.alike_within {α β : Type} {same : α → β → Prop} (pairs : List (String × Datum))
    {left : Action α} {right : Action β} (alike : Alike same left right) :
    Alike same (within pairs left) (within pairs right) := by
  intro before other workspaces
  rw [run_within, run_within, ← workspaces.options]
  split
  case h_1 inner fault overridden => exact ⟨rfl, workspaces.with_options inner⟩
  case h_2 inner kept overridden =>
    obtain ⟨agree, between⟩ := alike _ _ (workspaces.with_options inner)
    exact ⟨agree, between.restored kept⟩

theorem Command.document_name_without_ids (command : Command) :
    command.withoutIds.documentName? = command.documentName? := by
  cases command <;> rfl

namespace Workspace

variable {left right : Workspace}

theorem perform_document (workspace : Workspace) (own : Option (List (String × Datum)))
    (command : Command) :
    (workspace.perform own command).1.document =
      (command.documentName?.bind (workspace.perform own command).2.find?).map
        Holding.document := rfl

theorem perform_alike (alike : left.Alike right) (own : Option (List (String × Datum)))
    (command : Command) (ignores : command.IgnoresIds) :
    (left.perform own command).1.renumbered =
        (right.perform own command.withoutIds).1.renumbered ∧
      (left.perform own command).2.Alike (right.perform own command.withoutIds).2 := by
  have fresh : left.fresh.Alike right.fresh :=
    { alike with warnings := rfl, log := rfl }
  have performed := Action.alike_perform command ignores
  have reported : Agree Answer.Alike (left.perform own command).1.answer
        (right.perform own command.withoutIds).1.answer ∧
      (left.perform own command).2.Alike (right.perform own command.withoutIds).2 := by
    cases own with
    | none => exact performed left.fresh right.fresh fresh
    | some pairs => exact Action.alike_within pairs performed left.fresh right.fresh fresh
  obtain ⟨agree, after⟩ := reported
  have answer := agree.same_map Answer.renumbered Answer.renumbered fun _ _ same => same
  refine ⟨Report.renumbered_eq answer after.warnings after.log ?_, after⟩
  rw [perform_document, perform_document, command.document_name_without_ids]
  exact after.document command.documentName?

mutual
theorem run_alike : (step : Step) → (left right : Workspace) → left.Alike right →
    step.Only Command.IgnoresIds →
    (left.run step).1.renumbered = (right.run step.withoutIds).1.renumbered ∧
      (left.run step).2.Alike (right.run step.withoutIds).2
  | .command own given, left, right, alike, ignores => by
      obtain ⟨report, after⟩ := perform_alike alike own given ignores
      exact ⟨congrArg StepReport.command report, after⟩
  | .session none steps, left, right, alike, ignores => by
      obtain ⟨reports, after⟩ := run_all_alike steps left right alike ignores
      exact ⟨congrArg StepReport.session reports, after⟩
  | .session (some pairs) steps, left, right, alike, ignores => by
      rw [run, Step.withoutIds, run, ← alike.options]
      split
      case h_1 inner fault overridden => exact ⟨rfl, alike.with_options inner⟩
      case h_2 inner kept overridden =>
        obtain ⟨reports, after⟩ :=
          run_all_alike steps _ _ (alike.with_options inner) ignores
        exact ⟨congrArg StepReport.session reports, after.restored kept⟩

theorem run_all_alike : (steps : List Step) → (left right : Workspace) → left.Alike right →
    Step.AllOnly Command.IgnoresIds steps →
    StepReport.allRenumbered (left.runAll steps).1 =
        StepReport.allRenumbered (right.runAll (Step.allWithoutIds steps)).1 ∧
      (left.runAll steps).2.Alike (right.runAll (Step.allWithoutIds steps)).2
  | [], _, _, alike, _ => ⟨rfl, alike⟩
  | step :: rest, left, right, alike, ignores => by
      obtain ⟨report, between⟩ := run_alike step left right alike ignores.1
      obtain ⟨reports, after⟩ := run_all_alike rest _ _ between ignores.2
      rw [runAll, Step.allWithoutIds, runAll]
      refine ⟨?_, after⟩
      rw [StepReport.allRenumbered, StepReport.allRenumbered, report, reports]
end

end Workspace

/-- Two runs of one session, from workspaces that differ in identifiers and in how many were drawn,
with drafts that may bring different ones: all that is reported is the same but for identifiers,
and so is what is left, as long as no function that a caller brings reads them. -/
theorem runs_same_but_for_ids (left right : Workspace)
    (same : left.renumbered = right.renumbered)
    (configured : ∀ configuration ∈ left.configurations, configuration.IgnoresIds)
    (steps others : List Step) (sameSteps : Step.allWithoutIds steps = Step.allWithoutIds others)
    (ignores : Step.AllOnly Command.IgnoresIds steps) :
    StepReport.allRenumbered (left.runAll steps).1 =
        StepReport.allRenumbered (right.runAll others).1 ∧
      (left.runAll steps).2.renumbered = (right.runAll others).2.renumbered := by
  have alike := Workspace.Alike.of_renumbered same configured
  have othersIgnore : Step.AllOnly Command.IgnoresIds others := by
    rwa [← Step.all_only_ignores_without_ids, ← sameSteps, Step.all_only_ignores_without_ids]
  -- Both runs are compared with that of the steps without identifiers.
  obtain ⟨reports, after⟩ :=
    Workspace.run_all_alike steps left left (.refl left configured) ignores
  obtain ⟨otherReports, otherAfter⟩ :=
    Workspace.run_all_alike others right left alike.symm othersIgnore
  rw [← sameSteps] at otherReports otherAfter
  exact ⟨reports.trans otherReports.symm, after.renumbered.trans otherAfter.renumbered.symm⟩

theorem Predicate.count_is_ignores_ids (comparison : Comparison) (bound : Int) :
    (Predicate.countIs comparison bound).IgnoresIds := by
  intro text left right same
  rw [countIs, countIs, Element.length_of_shapes same]

/-- A session in which an element and the children given to another bring identifiers; one of its
edits fails validation, and one names no document. -/
def namingRun (first second : Id) : List Step :=
  [.command none (.document "sum" (.create "x"
     (.own true [{ tag := .text "custom", predicate := some (.countIs .less 3) }] none))),
   .command none (.document "sum" (.insert ⟨.text "operator", "+", [], some first⟩ none)),
   .session (some [("operators", .text "+")])
     [.command none (.document "sum" (.insert ⟨.text "number", "1", [], none⟩ none)),
      .command none (.document "sum" (.update 0 none none
        (some (.drafts [⟨.text "superscript", "3", [], some second⟩]))))],
   .command none (.document "sum" .tabulate),
   .command none (.compare (.drafts [⟨.text "number", "1", [], some first⟩]) (.text "1")),
   .command none (.document "other" .clear)]

def Workspace.idsIn (workspace : Workspace) (name : String) : List Id :=
  (workspace.find? name).elim [] fun holding =>
    Element.allPreorderIds holding.document.elements

theorem runs_same_but_for_ids_naming :
    let left := ({} : Workspace).runAll (namingRun "a" "b")
    let right := ({ drawn := 41 } : Workspace).runAll (namingRun "c" "a")
    StepReport.allRenumbered left.1 = StepReport.allRenumbered right.1 ∧
      left.2.renumbered = right.2.renumbered ∧
      left.2.idsIn "sum" = ["fe-1", "b", "fe-2", "fe-4"] ∧
      right.2.idsIn "sum" = ["fe-42", "a", "fe-43", "fe-45"] := by
  have drafts : ∀ draft ∈ [({ tag := .text "custom"
                              predicate := some (.countIs .less 3) } : RuleDraft)],
      draft.IgnoresIds := by
    intro draft member
    rw [List.mem_singleton] at member
    rintro predicate given
    subst member
    cases given
    exact Predicate.count_is_ignores_ids .less 3
  have ignores (first second : Id) :
      Step.AllOnly Command.IgnoresIds (namingRun first second) :=
    ⟨⟨drafts, by simp⟩, trivial, ⟨trivial, trivial, trivial⟩, trivial, trivial, trivial, trivial⟩
  obtain ⟨reports, after⟩ := runs_same_but_for_ids {} { drawn := 41 } rfl (by simp)
    (namingRun "a" "b") (namingRun "c" "a") rfl (ignores "a" "b")
  exact ⟨reports, after, by decide +kernel, by decide +kernel⟩

end InlineFormula
