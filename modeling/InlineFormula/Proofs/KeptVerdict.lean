import InlineFormula.Proofs.SessionRuns

/-!
The verdict that a document keeps. Validation keeps the verdict that it returns, but for the one
that an unset configuration gives: that is returned only, and an earlier verdict stays where it
was, whatever it said.
-/

set_option autoImplicit false

namespace InlineFormula

namespace Document

variable (settings : Settings) (configuration : Configuration) (document : Document)

theorem judge_unset (unset : configuration.isUnset = true) :
    document.judge settings configuration = .ok .passed := by
  rw [Configuration.isUnset, Bool.and_eq_true, Option.isNone_iff_eq_none] at unset
  simp only [judge, unset.1, unset.2, if_true]

theorem validate_last (verdict : Verdict)
    (judged : document.judge settings configuration = .ok verdict) :
    (document.validate settings configuration).document.last =
      if configuration.isUnset then document.last else some verdict := by
  simp only [validate, judged]
  split <;> rfl

end Document

namespace Workspace

def keptVerdict (workspace : Workspace) (name : String) : Option Verdict :=
  (workspace.find? name).bind fun holding => holding.document.last

def configurationOf (workspace : Workspace) (name : String) : Option Configuration :=
  (workspace.find? name).map workspace.configuration

variable (workspace : Workspace) (name : String)

theorem perform_validate (holding : Holding) (found : workspace.find? name = some holding) :
    (workspace.perform none (.document name .validate)).1.answer =
        (holding.document.judge workspace.settings (workspace.configuration holding)).map
          (fun verdict => .verdict verdict none) ∧
      (workspace.perform none (.document name .validate)).2 =
        workspace.fresh.store name holding
          (holding.document.validate workspace.settings (workspace.configuration holding)) := by
  have ran := Action.perform_held name workspace.fresh .validate holding found
  rw [Action.run_validate name workspace.fresh holding found] at ran
  have result := holding.document.validate_result workspace.settings
    (workspace.configuration holding)
  rw [← result]
  exact ⟨congrArg Prod.fst ran, congrArg Prod.snd ran⟩

/-- The verdict that a validation returned is the kept one, unless it came from an unset
configuration; then it is the kept one only if that had been a pass before. -/
theorem verdict_kept_iff (configuration : Configuration) (verdict : Verdict)
    (configured : workspace.configurationOf name = some configuration)
    (returned : (workspace.perform none (.document name .validate)).1.answer =
      .ok (.verdict verdict none)) :
    (workspace.perform none (.document name .validate)).2.keptVerdict name = some verdict ↔
      configuration.isUnset = false ∨ workspace.keptVerdict name = some .passed := by
  obtain ⟨holding, found, rfl⟩ := Option.map_eq_some_iff.mp configured
  obtain ⟨answered, left⟩ := workspace.perform_validate name holding found
  obtain ⟨given, judged, same⟩ := of_map_eq_ok (answered.symm.trans returned)
  cases same
  have kept : (workspace.perform none (.document name .validate)).2.keptVerdict name =
      if (workspace.configuration holding).isUnset then holding.document.last
      else some verdict := by
    rw [left, keptVerdict, find_store, Option.bind_some]
    exact holding.document.validate_last workspace.settings _ verdict judged
  have earlier : workspace.keptVerdict name = holding.document.last := by
    rw [keptVerdict, found, Option.bind_some]
  rw [kept, earlier]
  cases unset : (workspace.configuration holding).isUnset with
  | false => simp
  | true =>
      rw [Document.judge_unset _ _ _ unset] at judged
      cases judged
      simp

end Workspace

def outdatingRun : List Step :=
  [.command none (.document "draft" (.create "a"
      (.own false [{ tag := .text "has-equals" }] none))),
   .command none (.document "draft" .validate),
   .command none (.document "draft" (.setRules []))]

theorem verdict_kept_iff_outdated :
    (({} : Workspace).runAll outdatingRun).2.configurationOf "draft" = some {} ∧
      ((({} : Workspace).runAll outdatingRun).2.perform none
        (.document "draft" .validate)).1.answer = .ok (.verdict .passed none) ∧
      (((({} : Workspace).runAll outdatingRun).2.perform none
        (.document "draft" .validate)).2.keptVerdict "draft" = some .passed ↔
        ({} : Configuration).isUnset = false ∨
          (({} : Workspace).runAll outdatingRun).2.keptVerdict "draft" = some .passed) := by
  -- The scan goes down the length of a text, and such definitions are not unfolded otherwise.
  have configured : (({} : Workspace).runAll outdatingRun).2.configurationOf "draft" =
      some {} := by
    with_unfolding_all rfl
  have returned : ((({} : Workspace).runAll outdatingRun).2.perform none
      (.document "draft" .validate)).1.answer = .ok (.verdict .passed none) := by
    with_unfolding_all rfl
  exact ⟨configured, returned, Workspace.verdict_kept_iff _ "draft" {} .passed configured returned⟩

/-- Here the pass is returned, and the failure of the rules that are gone is kept. -/
theorem verdict_not_always_kept :
    ¬∀ (steps : List Step) (name : String) (verdict : Verdict),
      ((({} : Workspace).runAll steps).2.perform none (.document name .validate)).1.answer =
        .ok (.verdict verdict none) →
      ((({} : Workspace).runAll steps).2.perform none (.document name .validate)).2.keptVerdict
        name = some verdict := by
  intro always
  have kept := always outdatingRun "draft" .passed (by with_unfolding_all rfl)
  have failed : (((({} : Workspace).runAll outdatingRun).2.perform none
      (.document "draft" .validate)).2.keptVerdict "draft").map Verdict.valid = some false := by
    with_unfolding_all rfl
  rw [kept] at failed
  cases failed

end InlineFormula
