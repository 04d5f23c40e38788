import InlineFormula.Element.Draft
import InlineFormula.Formula.Parse
import InlineFormula.Settings.Options

/-!
Reading a formula under options as they are set. The names of functions are looked at first. A
character that is neither numeric nor a letter is sought among the operators, and if it is none
of them among the brackets; where these cannot be looked through, reading ends.
-/

set_option autoImplicit false

namespace InlineFormula.Options

def asked (options : Options) : Token → Except Fault Unit
  | .atom .number _ | .atom .letter _ | .atom .function _ => .ok ()
  | .atom .operator _ => options.operators.map fun _ => ()
  | _ => options.operators.bind fun _ => options.brackets.map fun _ => ()

/-- The first fault, and the number of tokens in front of it. -/
def firstFault (options : Options) : List Token → Option (Nat × Fault)
  | [] => none
  | token :: rest =>
      match options.asked token with
      | .error fault => some (0, fault)
      | .ok () => (options.firstFault rest).map fun found => (found.1 + 1, found.2)

/-- None of the tokens in front of a fault is a modifier, so each of them has drawn. -/
def readFormula (options : Options) (drawn : Nat) (text : String) :
    Draft.Drawing (List (Element Id)) :=
  if text.isEmpty then (.ok [], drawn)
  else
    match options.functionNames with
    | .error fault => (.error fault, drawn)
    | .ok _ =>
        match options.firstFault (tokens options.settings text.toList) with
        | some (count, fault) => (.error fault, drawn + count)
        | none =>
            let parsed := Formula.parseNumbered options.settings drawn text
            (.ok parsed, drawn + Element.totalSize parsed)

/-- The fault that an operation comes upon when it reads a text itself, with what is drawn by then;
nothing is drawn in front of a text that can be read. -/
def readable (options : Options) (drawn : Nat) (text : String) : Draft.Drawing Unit :=
  match options.readFormula drawn text with
  | (.error fault, last) => (.error fault, last)
  | (.ok _, _) => (.ok (), drawn)

theorem read_formula_drawn_le (options : Options) (drawn : Nat) (text : String) :
    drawn ≤ (options.readFormula drawn text).2 := by
  rw [readFormula]
  split
  · exact Nat.le_refl drawn
  split
  · exact Nat.le_refl drawn
  split
  · exact Nat.le_add_right _ _
  · exact Nat.le_add_right _ _

theorem readable_drawn_le (options : Options) (drawn : Nat) (text : String) :
    drawn ≤ (options.readable drawn text).2 := by
  have grows := options.read_formula_drawn_le drawn text
  rw [readable]
  split
  case h_1 fault last read =>
    rw [read] at grows
    exact grows
  case h_2 => exact Nat.le_refl drawn

/-- What is read without a fault is what the settings that the options come to say. -/
theorem read_formula_ok (options : Options) (drawn last : Nat) (text : String)
    (elements : List (Element Id))
    (read : options.readFormula drawn text = (.ok elements, last)) :
    elements = Formula.parseNumbered options.settings drawn text ∧
      last = drawn + Element.totalSize elements := by
  rw [readFormula] at read
  split at read
  case isTrue empty =>
    cases read
    have none : text = "" := String.isEmpty_iff.mp empty
    rw [none, Formula.parseNumbered, Formula.parse, Formula.parseChars, String.toList_empty,
      tokens_nil]
    exact ⟨rfl, rfl⟩
  split at read
  · cases read
  split at read
  · cases read
  · cases read
    exact ⟨rfl, rfl⟩

end InlineFormula.Options
