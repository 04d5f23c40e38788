import InlineFormula.Fault

/-!
Choices: a datum is accepted when it agrees with one of those offered.
-/

set_option autoImplicit false

namespace InlineFormula.Choice

/-- Data of one type that agree are one choice, though a truth value may agree with a number. -/
def identical (left right : Datum) : Bool :=
  left.typeName == right.typeName && left.agrees right

/-- Lists and objects have parts of their own. -/
def isCompound : Datum → Bool
  | .list _ => true
  | .object _ => true
  | _ => false

/-- Each choice is offered once, at its first place; beside a compound choice, all are offered
as they are given. -/
def distinct (choices : List Datum) : List Datum :=
  if choices.any isCompound then choices
  else
    choices.foldl
      (fun seen choice => if seen.any (identical · choice) then seen else seen ++ [choice]) []

def check (given : Datum) (choices : List Datum) : Except Fault Unit :=
  match distinct choices with
  | [] => .error .noChoices
  | offered =>
      if offered.any given.agrees then .ok () else .error (.notAChoice offered given)

end InlineFormula.Choice
