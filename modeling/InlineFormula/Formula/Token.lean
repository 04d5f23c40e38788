import InlineFormula.Formula.CharClass
import InlineFormula.Formula.Spelling

/-!
Tokens of a formula text: atoms, which become elements, and modifiers, which decorate the atom
before them. The texts of the tokens, one after the other, are the text that was read.
-/

set_option autoImplicit false

namespace InlineFormula

inductive Token where
  | atom (kind : Kind) (value : List Char)
  | modifier (marker : Marker) (spelling : Spelling)
  deriving DecidableEq, Repr

namespace Token

def text : Token → List Char
  | atom _ value => value
  | modifier marker spelling => marker.char :: spelling.text

def isModifier : Token → Bool
  | atom _ _ => false
  | modifier _ _ => true

end Token

def insertByLength (name : String) : List String → List String
  | [] => [name]
  | other :: names =>
      if name.length < other.length then other :: insertByLength name names
      else name :: other :: names

/-- Names as they are tried; those of one length keep their order. -/
def longestFirst (names : List String) : List String :=
  names.foldr insertByLength []

/-- A function is recognised by its name with an opening parenthesis right behind it. -/
def Settings.functionAt? (settings : Settings) (text : List Char) : Option String :=
  (longestFirst settings.functionNames).find? fun name =>
    (name.toList ++ ['(']).isPrefixOf text

namespace Token

/-- The token at the head of a text, and what is left behind it. -/
def read (settings : Settings) (char : Char) (rest : List Char) : Token × List Char :=
  match settings.classify char with
  | .numeric => (atom .number (char :: rest.takeWhile isNumeric), rest.dropWhile isNumeric)
  | .letter =>
      match settings.functionAt? (char :: rest) with
      | some name => (atom .function name.toList, rest.drop (name.toList.length - 1))
      | none => (atom .letter [char], rest)
  | .operator => (atom .operator [char], rest)
  | .bracket => (atom .bracket [char], rest)
  | .symbol => (atom .symbol [char], rest)
  | .marker marker =>
      let (spelling, after) := Spelling.read rest
      (modifier marker spelling, after)

theorem read_length (settings : Settings) (char : Char) (rest : List Char) :
    (read settings char rest).2.length ≤ rest.length := by
  rw [read]
  split
  · exact (List.dropWhile_sublist _).length_le
  · split
    · simp
    · simp
  · simp
  · simp
  · simp
  · exact Spelling.read_length rest

end Token

def tokens (settings : Settings) : List Char → List Token
  | [] => []
  | char :: rest =>
      let step := Token.read settings char rest
      step.1 :: tokens settings step.2
termination_by text => text.length
decreasing_by exact Nat.lt_succ_of_le (Token.read_length settings char rest)

theorem tokens_nil (settings : Settings) : tokens settings [] = [] := by
  rw [tokens]

theorem tokens_cons (settings : Settings) (char : Char) (rest : List Char) :
    tokens settings (char :: rest) =
      (Token.read settings char rest).1 :: tokens settings (Token.read settings char rest).2 := by
  rw [tokens]

/-- A parenthesis is no letter, so a name found at a letter is not empty. -/
theorem function_at_letter (settings : Settings) (char : Char) (rest : List Char) (name : String)
    (letter : settings.classify char = .letter)
    (found : settings.functionAt? (char :: rest) = some name) :
    ∃ tail, name.toList = char :: tail ∧ (tail ++ ['(']).isPrefixOf rest = true := by
  have fits := List.find?_some found
  cases spelled : name.toList with
  | nil =>
      simp only [spelled, List.nil_append, List.isPrefixOf, Bool.and_true, beq_iff_eq] at fits
      subst fits
      have alphabetic := ((classify_letter_iff settings '(').mp letter).2
      exact absurd alphabetic (by decide)
  | cons first tail =>
      simp only [spelled, List.cons_append, List.isPrefixOf, Bool.and_eq_true, beq_iff_eq] at fits
      exact ⟨tail, by rw [fits.1], fits.2⟩

/-- What a step reads and what it leaves make up what it was given. -/
theorem token_read_text (settings : Settings) (char : Char) (rest : List Char) :
    (Token.read settings char rest).1.text ++ (Token.read settings char rest).2 =
      char :: rest := by
  rw [Token.read]
  split
  case h_1 => simp [Token.text]
  case h_2 letter =>
    split
    case h_1 name found =>
      obtain ⟨tail, spelled, fits⟩ := function_at_letter settings char rest name letter found
      obtain ⟨after, same⟩ := List.isPrefixOf_iff_prefix.mp fits
      simp [Token.text, spelled, ← same]
    case h_2 => simp [Token.text]
  case h_3 => simp [Token.text]
  case h_4 => simp [Token.text]
  case h_5 => simp [Token.text]
  case h_6 marker marked =>
    have announced := ((classify_marker_iff settings char marker).mp marked).1
    simp [Token.text, announced, Spelling.read_text]

/-- The tokens of a text lose, repeat and reorder nothing. -/
theorem tokens_text (settings : Settings) (text : List Char) :
    (tokens settings text).flatMap Token.text = text := by
  fun_induction tokens settings text with
  | case1 => rfl
  | case2 char rest step induction =>
      rw [List.flatMap_cons, induction, token_read_text]

end InlineFormula
