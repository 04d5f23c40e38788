/-!
Matching of brackets in a text. Bracket pairs are listed as an opener and its closer, one pair
after the other; of two pairs with one opener the later counts. A scan keeps the open brackets,
innermost first, and stops at the first bracket that cannot be matched.
-/

set_option autoImplicit false

namespace InlineFormula

structure Brackets where
  pairs : List (Char × Char)

namespace Brackets

/-- A character without a partner at the end of the list is left out. -/
def pairUp : List Char → List (Char × Char)
  | opener :: closer :: rest => (opener, closer) :: pairUp rest
  | _ => []

def ofString (text : String) : Brackets := ⟨pairUp text.toList⟩

/-- The closer that belongs to an opener; none for all other characters. -/
def closer? (brackets : Brackets) (opener : Char) : Option Char :=
  brackets.pairs.reverse.lookup opener

/-- A closer belongs to some opener; the closer of a replaced pair is none. -/
def isCloser (brackets : Brackets) (char : Char) : Bool :=
  brackets.pairs.any fun pair => brackets.closer? pair.1 == some char

/-- Each open bracket is kept as the closer it waits for and its own position. A character that
is an opener is never taken as a closer. At the end of the text the outermost open bracket is
the one at fault. -/
def scan (brackets : Brackets) (waiting : List (Char × Nat)) (position : Nat) :
    List Char → Option Nat
  | [] => waiting.getLast?.map Prod.snd
  | char :: rest =>
      match brackets.closer? char with
      | some closer => brackets.scan ((closer, position) :: waiting) (position + 1) rest
      | none =>
          if brackets.isCloser char then
            match waiting with
            | [] => some position
            | (closer, _) :: outer =>
                if closer = char then brackets.scan outer (position + 1) rest else some position
          else brackets.scan waiting (position + 1) rest

/-- The position of the first bracket at fault; none when all brackets match. -/
def firstFault (brackets : Brackets) (text : List Char) : Option Nat := brackets.scan [] 0 text

theorem is_closer_iff (brackets : Brackets) (char : Char) :
    brackets.isCloser char = true ↔ ∃ opener, brackets.closer? opener = some char := by
  simp only [isCloser, List.any_eq_true, beq_iff_eq]
  constructor
  · rintro ⟨pair, _, belongs⟩
    exact ⟨pair.1, belongs⟩
  · rintro ⟨opener, belongs⟩
    have found := belongs
    simp only [closer?, List.lookup_eq_some_iff] at found
    obtain ⟨before, after, same, _⟩ := found
    exact ⟨(opener, char), List.mem_reverse.mp (by rw [same]; simp), belongs⟩

end Brackets

end InlineFormula
