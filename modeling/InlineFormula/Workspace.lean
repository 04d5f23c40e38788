import InlineFormula.Document.Edit
import InlineFormula.Settings.Scopes
import InlineFormula.Table

/-!
A workspace is everything that outlives a single command: the options with their scopes, the
number of identifiers drawn, the configurations, and the documents by name. It also gathers the
warnings and log entries of the command that is running, and knows how columns are made.
-/

set_option autoImplicit false

namespace InlineFormula

/-- A document as a workspace holds it: two documents with one configuration number share that
configuration. -/
structure Holding where
  document : Document
  configuration : Nat

structure Workspace where
  scopes : Scopes := {}
  drawn : Nat := 0
  configurations : List Configuration := []
  documents : List (String × Holding) := []
  warnings : List Warning := []
  log : List LogEntry := []
  column : Column := .unbounded

namespace Workspace

def options (workspace : Workspace) : Options := workspace.scopes.current

@[simp] theorem scopes_current (workspace : Workspace) :
    workspace.scopes.current = workspace.options := rfl

/-- What the options in force come to. -/
def settings (workspace : Workspace) : Settings := workspace.options.settings

def withOptions (workspace : Workspace) (options : Options) : Workspace :=
  { workspace with scopes := { workspace.scopes with current := options } }

/-- What a scope kept is in force again. -/
def restore (workspace : Workspace) (kept : List (String × Datum)) : Workspace :=
  workspace.withOptions (workspace.options.restore kept)

def find? (workspace : Workspace) (name : String) : Option Holding :=
  workspace.documents.lookup name

/-- A document takes the place of one with the same name. -/
def put (workspace : Workspace) (name : String) (holding : Holding) : Workspace :=
  { workspace with
    documents := (name, holding) :: workspace.documents.filter fun entry => entry.1 != name }

def configuration (workspace : Workspace) (holding : Holding) : Configuration :=
  workspace.configurations.getD holding.configuration {}

theorem find_put (workspace : Workspace) (name : String) (holding : Holding) :
    (workspace.put name holding).find? name = some holding := by
  simp [put, find?]

theorem find_put_other (workspace : Workspace) (name other : String) (holding : Holding)
    (different : other ≠ name) :
    (workspace.put name holding).find? other = workspace.find? other := by
  have unequal : (other == name) = false := by simpa using different
  simp only [put, find?, List.lookup_cons, unequal]
  generalize workspace.documents = documents
  induction documents with
  | nil => rfl
  | cons entry rest induction =>
      obtain ⟨held, document⟩ := entry
      by_cases replaced : held = name
      · subst replaced
        simpa [List.lookup_cons, unequal] using induction
      · by_cases sought : other = held
        · subst sought
          simp [replaced]
        · have skipped : (other == held) = false := by simpa using sought
          simpa [List.lookup_cons, replaced, skipped] using induction

end Workspace

/-- An action may fail; what it did to the workspace before stays done. -/
abbrev Action := ExceptT Fault (StateM Workspace)

end InlineFormula
