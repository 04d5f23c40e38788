import InlineFormula.Proofs.AlikeDocuments

/-!
Workspaces that differ in identifiers only. They agree in everything once the identifiers in
their documents are drawn anew; how many were drawn so far does not count.
-/

set_option autoImplicit false

namespace InlineFormula

def Document.renumbered (document : Document) : Document :=
  { document with elements := Element.allRenumbered document.elements }

theorem Document.renumbered_eq_iff (left right : Document) :
    left.renumbered = right.renumbered ↔ left.Alike right := by
  obtain ⟨elements, last⟩ := left
  obtain ⟨others, otherLast⟩ := right
  simp only [renumbered, Document.mk.injEq, Element.all_renumbered_eq_iff]
  constructor
  · rintro ⟨shapes, verdicts⟩
    exact ⟨shapes, verdicts⟩
  · intro alike
    exact ⟨alike.shapes, alike.last⟩

def Holding.renumbered (holding : Holding) : Holding :=
  { holding with document := holding.document.renumbered }

structure Holding.Alike (left right : Holding) : Prop where
  document : left.document.Alike right.document
  configuration : left.configuration = right.configuration

theorem Holding.renumbered_eq_iff (left right : Holding) :
    left.renumbered = right.renumbered ↔ left.Alike right := by
  obtain ⟨document, number⟩ := left
  obtain ⟨other, otherNumber⟩ := right
  simp only [renumbered, Holding.mk.injEq, Document.renumbered_eq_iff]
  constructor
  · rintro ⟨documents, numbers⟩
    exact ⟨documents, numbers⟩
  · intro alike
    exact ⟨alike.document, alike.configuration⟩

namespace Workspace

def renumberedDocuments (workspace : Workspace) : List (String × Holding) :=
  workspace.documents.map fun entry => (entry.1, entry.2.renumbered)

def renumbered (workspace : Workspace) : Workspace :=
  { workspace with drawn := 0, documents := workspace.renumberedDocuments }

theorem find_renumbered (workspace : Workspace) (name : String) :
    workspace.renumberedDocuments.lookup name =
      (workspace.find? name).map Holding.renumbered := by
  rw [renumberedDocuments, find?]
  generalize workspace.documents = documents
  induction documents with
  | nil => rfl
  | cons entry rest induction =>
      rw [List.map_cons, List.lookup_cons, List.lookup_cons]
      cases name == entry.1 with
      | true => rfl
      | false => exact induction

theorem put_renumbered (workspace : Workspace) (name : String) (holding : Holding) :
    (workspace.put name holding).renumberedDocuments =
      (name, holding.renumbered) ::
        workspace.renumberedDocuments.filter fun entry => entry.1 != name := by
  simp only [put, renumberedDocuments, List.map_cons, List.filter_map, Function.comp_def]

/-- Workspaces that differ in nothing but identifiers and their number; no predicate or validator
that is configured in them reads identifiers. -/
structure Alike (left right : Workspace) : Prop where
  scopes : left.scopes = right.scopes
  configurations : left.configurations = right.configurations
  documents : left.renumberedDocuments = right.renumberedDocuments
  warnings : left.warnings = right.warnings
  log : left.log = right.log
  column : left.column = right.column
  ignores : ∀ configuration ∈ left.configurations, configuration.IgnoresIds

namespace Alike

variable {left right : Workspace}

theorem renumbered (alike : left.Alike right) : left.renumbered = right.renumbered := by
  rw [Workspace.renumbered, Workspace.renumbered, alike.scopes, alike.configurations,
    alike.documents, alike.warnings, alike.log, alike.column]

theorem of_renumbered (same : left.renumbered = right.renumbered)
    (ignores : ∀ configuration ∈ left.configurations, configuration.IgnoresIds) :
    left.Alike right := by
  simp only [Workspace.renumbered, Workspace.mk.injEq] at same
  obtain ⟨scopes, -, configurations, documents, warnings, log, column⟩ := same
  exact ⟨scopes, configurations, documents, warnings, log, column, ignores⟩

theorem refl (workspace : Workspace)
    (ignores : ∀ configuration ∈ workspace.configurations, configuration.IgnoresIds) :
    workspace.Alike workspace :=
  ⟨rfl, rfl, rfl, rfl, rfl, rfl, ignores⟩

theorem symm (alike : left.Alike right) : right.Alike left where
  scopes := alike.scopes.symm
  configurations := alike.configurations.symm
  documents := alike.documents.symm
  warnings := alike.warnings.symm
  log := alike.log.symm
  column := alike.column.symm
  ignores := by
    rw [← alike.configurations]
    exact alike.ignores

theorem options (alike : left.Alike right) : left.options = right.options := by
  rw [Workspace.options, alike.scopes, Workspace.options]

theorem settings (alike : left.Alike right) : left.settings = right.settings := by
  rw [Workspace.settings, alike.options, Workspace.settings]

theorem find (alike : left.Alike right) (name : String) :
    left.find? name = none ∧ right.find? name = none ∨
      ∃ holding other, left.find? name = some holding ∧ right.find? name = some other ∧
        holding.Alike other := by
  have same : (left.find? name).map Holding.renumbered =
      (right.find? name).map Holding.renumbered := by
    rw [← find_renumbered, ← find_renumbered, alike.documents]
  cases found : left.find? name with
  | none =>
      rw [found] at same
      exact .inl ⟨rfl, Option.map_eq_none_iff.mp same.symm⟩
  | some holding =>
      rw [found] at same
      obtain ⟨other, foundOther, renumbered⟩ := Option.map_eq_some_iff.mp same.symm
      exact .inr ⟨holding, other, rfl, foundOther,
        (Holding.renumbered_eq_iff holding other).mp renumbered.symm⟩

theorem document (alike : left.Alike right) (name : Option String) :
    ((name.bind left.find?).map Holding.document).map Document.renumbered =
      ((name.bind right.find?).map Holding.document).map Document.renumbered := by
  cases name with
  | none => rfl
  | some name =>
      rw [Option.bind_some, Option.bind_some]
      obtain ⟨first, second⟩ | ⟨holding, other, first, second, held⟩ := alike.find name
      · rw [first, second]
      · rw [first, second]
        exact congrArg some ((Document.renumbered_eq_iff _ _).mpr held.document)

theorem put (alike : left.Alike right) (name : String) {holding other : Holding}
    (held : holding.Alike other) : (left.put name holding).Alike (right.put name other) where
  scopes := alike.scopes
  configurations := alike.configurations
  documents := by
    rw [put_renumbered, put_renumbered, alike.documents,
      (Holding.renumbered_eq_iff holding other).mpr held]
  warnings := alike.warnings
  log := alike.log
  column := alike.column
  ignores := alike.ignores

theorem redrawn (alike : left.Alike right) (drawn other : Nat) :
    { left with drawn }.Alike { right with drawn := other } :=
  { alike with documents := alike.documents }

theorem rescoped (alike : left.Alike right) (scopes : Scopes) :
    { left with scopes }.Alike { right with scopes } :=
  { alike with scopes := rfl }

theorem with_options (alike : left.Alike right) (options : Options) :
    (left.withOptions options).Alike (right.withOptions options) := by
  rw [withOptions, withOptions, alike.scopes]
  exact alike.rescoped { right.scopes with current := options }

theorem restored (alike : left.Alike right) (kept : List (String × Datum)) :
    (left.restore kept).Alike (right.restore kept) := by
  rw [restore, restore, alike.options]
  exact alike.with_options (right.options.restore kept)

theorem configuration (alike : left.Alike right) {holding other : Holding}
    (held : holding.Alike other) :
    left.configuration holding = right.configuration other ∧
      (left.configuration holding).IgnoresIds := by
  constructor
  · rw [Workspace.configuration, Workspace.configuration, alike.configurations,
      held.configuration]
  · rw [Workspace.configuration, List.getD_eq_getElem?_getD]
    cases found : left.configurations[holding.configuration]? with
    | none => exact ⟨by simp, by simp⟩
    | some configuration => exact alike.ignores configuration (List.mem_of_getElem? found)

end Alike

end Workspace

end InlineFormula
