import InlineFormula.Element.Ids
import InlineFormula.Fault

/-!
Drafts of elements, as a caller describes them. Building a draft builds its children first, then
draws an identifier unless one is given, and looks at the kind last; so a draft of an unknown
kind has used up its number.
-/

set_option autoImplicit false

namespace InlineFormula

structure Draft where
  kind : Datum
  value : String
  children : List Draft
  id : Option Id

/-- Only a text can name a kind. -/
def Kind.ofDatum (given : Datum) : Except Fault Kind :=
  match given with
  | .text tag =>
      match Kind.ofTag? tag with
      | some kind => .ok kind
      | none => .error (.unknownKind given)
  | _ => .error (.unknownKind given)

namespace Draft

/-- Besides the outcome, the number of identifiers drawn so far. -/
abbrev Drawing (α : Type) := Except Fault α × Nat

mutual
def build (drawn : Nat) : Draft → Drawing (Element Id)
  | ⟨kind, value, children, id⟩ =>
      match buildAll drawn children with
      | (.error fault, drawn) => (.error fault, drawn)
      | (.ok children, drawn) =>
          let (id, drawn) :=
            match id with
            | some id => (id, drawn)
            | none => (Id.ofNat (drawn + 1), drawn + 1)
          ((Kind.ofDatum kind).map fun kind => ⟨kind, value, children, id⟩, drawn)

def buildAll (drawn : Nat) : List Draft → Drawing (List (Element Id))
  | [] => (.ok [], drawn)
  | draft :: rest =>
      match draft.build drawn with
      | (.error fault, drawn) => (.error fault, drawn)
      | (.ok element, drawn) =>
          match buildAll drawn rest with
          | (.error fault, drawn) => (.error fault, drawn)
          | (.ok elements, drawn) => (.ok (element :: elements), drawn)
end

end Draft

end InlineFormula
