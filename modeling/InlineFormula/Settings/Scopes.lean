import InlineFormula.Settings.Options

/-!
Scopes of options. Opening a scope keeps what the options were and changes them for the time
being; leaving it brings back what was kept, whatever was set inside.
-/

set_option autoImplicit false

namespace InlineFormula

/-- The options in force, and what each open scope will bring back, innermost first. -/
structure Scopes where
  current : Options := .standard
  kept : List (List (String × Datum)) := []

namespace Scopes

def depth (scopes : Scopes) : Nat := scopes.kept.length

/-- A change without a scope; if it fails part-way, what was set stays. -/
def assign (pairs : List (String × Datum)) (scopes : Scopes) : Scopes × Option Fault :=
  let (options, fault) := scopes.current.assign pairs
  ({ scopes with current := options }, fault)

/-- If the change fails, no scope is opened. -/
def enter (pairs : List (String × Datum)) (scopes : Scopes) : Scopes × Option Fault :=
  match scopes.current.override pairs with
  | (options, .ok kept) => ({ current := options, kept := kept :: scopes.kept }, none)
  | (options, .error fault) => ({ scopes with current := options }, some fault)

def leave (scopes : Scopes) : Scopes × Option Fault :=
  match scopes.kept with
  | [] => (scopes, some .noOpenScope)
  | kept :: outer => ({ current := scopes.current.restore kept, kept := outer }, none)

end Scopes

end InlineFormula
