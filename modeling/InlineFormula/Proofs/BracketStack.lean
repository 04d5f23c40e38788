import InlineFormula.Check.Brackets

/-!
The stack of a bracket scan. What a text does to the brackets that are open does not depend on
positions, and one part of a text takes over from the part before it.
-/

set_option autoImplicit false

namespace InlineFormula.Brackets

/-- Openers and closers; the closer of a replaced pair is an ordinary character. -/
def IsBracket (brackets : Brackets) (char : Char) : Prop :=
  brackets.closer? char ≠ none ∨ brackets.isCloser char = true

/-- What a character makes of the closers that are waited for, innermost first; nothing when it
is a closer that is not waited for. -/
def meet (brackets : Brackets) (waiting : List Char) (char : Char) : Option (List Char) :=
  match brackets.closer? char with
  | some closer => some (closer :: waiting)
  | none =>
      if brackets.isCloser char then
        match waiting with
        | [] => none
        | closer :: outer => if closer = char then some outer else none
      else some waiting

def stackAfter (brackets : Brackets) (waiting text : List Char) : Option (List Char) :=
  text.foldlM brackets.meet waiting

theorem stack_after_cons (brackets : Brackets) (waiting : List Char) (char : Char)
    (rest : List Char) :
    brackets.stackAfter waiting (char :: rest) =
      (brackets.meet waiting char).bind fun outer => brackets.stackAfter outer rest := rfl

theorem stack_after_append (brackets : Brackets) (waiting front back : List Char) :
    brackets.stackAfter waiting (front ++ back) =
      (brackets.stackAfter waiting front).bind fun outer => brackets.stackAfter outer back :=
  List.foldlM_append

/-- Positions only serve the report: they decide nothing about whether there is a fault. -/
theorem scan_eq_none_iff (brackets : Brackets) (waiting : List (Char × Nat)) (position : Nat)
    (text : List Char) :
    brackets.scan waiting position text = none ↔
      brackets.stackAfter (waiting.map Prod.fst) text = some [] := by
  induction text generalizing waiting position with
  | nil => simp [scan, stackAfter]
  | cons char rest induction =>
      rw [stack_after_cons]
      unfold scan
      cases opens : brackets.closer? char with
      | some closer => simp [meet, opens, induction]
      | none =>
          cases closes : brackets.isCloser char with
          | false => simp [meet, opens, closes, induction]
          | true =>
              cases waiting with
              | nil => simp [meet, opens, closes]
              | cons innermost outer =>
                  obtain ⟨closer, opened⟩ := innermost
                  by_cases same : closer = char
                  · simp [meet, opens, closes, same, induction]
                  · simp [meet, opens, closes, same]

theorem first_fault_eq_none_iff (brackets : Brackets) (text : List Char) :
    brackets.firstFault text = none ↔ brackets.stackAfter [] text = some [] :=
  brackets.scan_eq_none_iff [] 0 text

theorem meet_plain (brackets : Brackets) (waiting : List Char) (char : Char)
    (plain : ¬brackets.IsBracket char) : brackets.meet waiting char = some waiting := by
  simp only [IsBracket, not_or, Decidable.not_not, Bool.not_eq_true] at plain
  simp [meet, plain.1, plain.2]

/-- The closer of an opener, when it is no opener itself, takes back what the opener did. -/
theorem meet_closer (brackets : Brackets) (waiting : List Char) (opener closer : Char)
    (paired : brackets.closer? opener = some closer) (ends : brackets.closer? closer = none) :
    brackets.meet (closer :: waiting) closer = some waiting := by
  have closes := (brackets.is_closer_iff closer).mpr ⟨opener, paired⟩
  simp [meet, ends, closes]

end InlineFormula.Brackets
