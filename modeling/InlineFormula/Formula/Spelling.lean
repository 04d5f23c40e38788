/-!
Spellings of a modifier's content: a group in braces, a group left open at the end of the text,
a bare character, or nothing at the end of the text. Reading takes the spelling that the text
shows; writing chooses one that shows the content.
-/

set_option autoImplicit false

namespace InlineFormula

inductive Spelling where
  | grouped (content : List Char)
  | unclosed (content : List Char)
  | bare (char : Char)
  | absent
  deriving DecidableEq, Repr

namespace Spelling

def content : Spelling → List Char
  | grouped content => content
  | unclosed content => content
  | bare char => [char]
  | absent => []

def text : Spelling → List Char
  | grouped content => '{' :: content ++ ['}']
  | unclosed content => '{' :: content
  | bare char => [char]
  | absent => []

/-- Splits a text at the brace that closes a group with `depth` further groups open in it. -/
def closeGroup (depth : Nat) : List Char → Option (List Char × List Char)
  | [] => none
  | char :: rest =>
      if char = '{' then (closeGroup (depth + 1) rest).map fun split => (char :: split.1, split.2)
      else if char = '}' then
        match depth with
        | 0 => some ([], rest)
        | outer + 1 => (closeGroup outer rest).map fun split => (char :: split.1, split.2)
      else (closeGroup depth rest).map fun split => (char :: split.1, split.2)

/-- The text behind a marker gives a spelling and what is left. -/
def read : List Char → Spelling × List Char
  | [] => (absent, [])
  | char :: rest =>
      if char = '{' then
        match closeGroup 0 rest with
        | some (content, after) => (grouped content, after)
        | none => (unclosed rest, [])
      else (bare char, rest)

/-- The content behind a marker, and the position at which the text goes on. -/
def scan (text : List Char) : List Char × Nat :=
  ((read text).1.content, text.length - (read text).2.length)

/-- The number of groups left open in a text, `depth` of them before it; none when a closing
brace has no group to close. -/
def openDepth (depth : Nat) : List Char → Option Nat
  | [] => some depth
  | char :: rest =>
      if char = '{' then openDepth (depth + 1) rest
      else if char = '}' then
        match depth with
        | 0 => none
        | outer + 1 => openDepth outer rest
      else openDepth depth rest

/-- A lone closing brace is written bare, content with open groups is left open, and all else
is written as a group. -/
def ofContent (content : List Char) : Spelling :=
  if content = ['}'] then bare '}'
  else match openDepth 0 content with
    | some (_ + 1) => unclosed content
    | _ => grouped content

theorem close_group_append (depth : Nat) (text content after : List Char)
    (closed : closeGroup depth text = some (content, after)) :
    content ++ '}' :: after = text := by
  induction text generalizing depth content after with
  | nil => simp [closeGroup] at closed
  | cons char rest induction =>
      have deeper : ∀ inner,
          (closeGroup inner rest).map (fun split => (char :: split.1, split.2)) =
            some (content, after) → content ++ '}' :: after = char :: rest := by
        intro inner mapped
        obtain ⟨⟨front, back⟩, found, same⟩ := Option.map_eq_some_iff.mp mapped
        simp only [Prod.mk.injEq] at same
        rw [← same.1, ← same.2, List.cons_append, induction inner front back found]
      unfold closeGroup at closed
      split at closed
      · exact deeper _ closed
      · split at closed
        case isTrue _ brace =>
          split at closed
          · simp only [Option.some.injEq, Prod.mk.injEq] at closed
            simp [← closed.1, ← closed.2, brace]
          · exact deeper _ closed
        case isFalse => exact deeper _ closed

/-- Reading neither loses nor invents a character. -/
theorem read_text (text : List Char) : (read text).1.text ++ (read text).2 = text := by
  cases text with
  | nil => rfl
  | cons char rest =>
      rw [read]
      split
      case isTrue brace =>
        split
        case h_1 content after closed =>
          simp [Spelling.text, brace, close_group_append 0 rest content after closed]
        case h_2 => simp [Spelling.text, brace]
      case isFalse => simp [Spelling.text]

theorem read_length (text : List Char) : (read text).2.length ≤ text.length := by
  have whole := congrArg List.length (read_text text)
  simp only [List.length_append] at whole
  omega

/-- The spelling that is written shows the content it was chosen for. -/
theorem of_content_content (content : List Char) : (ofContent content).content = content := by
  rw [ofContent]
  split
  case isTrue lone => simp [Spelling.content, lone]
  case isFalse => split <;> rfl

end Spelling

end InlineFormula
