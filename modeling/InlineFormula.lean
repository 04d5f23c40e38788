import InlineFormula.Proofs.LoadedVerdict
import InlineFormula.Proofs.Slices
import InlineFormula.Rule.Predicates
import InlineFormula.Workspace.Perform
import InlineFormula.Proofs.ActionRuns
import InlineFormula.Proofs.BalancedText
import InlineFormula.Proofs.CommandEffects
import InlineFormula.Proofs.DrawnIds
import InlineFormula.Proofs.SessionRuns
import InlineFormula.Proofs.DistinctIds
import InlineFormula.Proofs.KeptVerdict
import InlineFormula.Proofs.CurrentVerdict
import InlineFormula.Proofs.ScopedRuns
import InlineFormula.Proofs.FormulaFaults
import InlineFormula.Proofs.OperandChains
import InlineFormula.Proofs.StableIdentities
import InlineFormula.Proofs.AlikeDocuments
import InlineFormula.Proofs.AlikeRuns
import InlineFormula.Proofs.CanonicalText
import InlineFormula.Proofs.FaultPosition
import InlineFormula.Proofs.JoinedTexts
import InlineFormula.Proofs.RuleLists
import InlineFormula.Proofs.AssignmentOrder
import InlineFormula.Proofs.NameListing
import InlineFormula.Proofs.FailedOperations
import InlineFormula.Proofs.CompleteSpelling
import InlineFormula.Proofs.FirstBreak
import InlineFormula.Proofs.TagSpellings
import InlineFormula.Proofs.DrawingOrder
