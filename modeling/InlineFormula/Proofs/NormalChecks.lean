import InlineFormula.Proofs.BracketStack
import InlineFormula.Proofs.NormalForm
import InlineFormula.Rule.Apply

/-!
The built-in checks on a text and on its normal form, which has braces that the text has not.
Where these are matched or are no brackets, a check finds the same fault in both, though brackets
that do not match stand at other positions.
-/

set_option autoImplicit false

namespace InlineFormula

open Token (AllFit)

/-- Braces are ordinary characters, or an opener and its closer. -/
def Brackets.BracesClose (brackets : Brackets) : Prop :=
  (¬brackets.IsBracket '{' ∧ ¬brackets.IsBracket '}') ∨
    (brackets.closer? '{' = some '}' ∧ brackets.closer? '}' = none)

/-- Every modifier in the text is closed or ends the text, and none without braces is a bracket. -/
def Settings.KeepsBrackets (settings : Settings) (text : List Char) : Prop :=
  ∀ marker spelling, Token.modifier marker spelling ∈ tokens settings text →
    (∀ content, spelling ≠ .unclosed content) ∧
      ∀ char, spelling = .bare char → ¬(Brackets.ofString settings.brackets).IsBracket char

namespace Token

theorem fits_of_mem (settings : Settings) (list : List Token) (fits : AllFit settings list)
    (token : Token) (member : token ∈ list) : ∃ after, token.Fits settings after := by
  induction list with
  | nil => cases member
  | cons first rest induction =>
      rcases List.mem_cons.mp member with rfl | later
      · exact ⟨_, fits.1⟩
      · exact induction fits.2 later

end Token

namespace Spelling

theorem mem_text_iff (spelling : Spelling) (char : Char) (opens : char ≠ '{')
    (closes : char ≠ '}') : char ∈ spelling.text ↔ char ∈ spelling.content := by
  cases spelling <;> simp [text, content, opens, closes]

end Spelling

namespace Brackets

theorem stack_after_plain (brackets : Brackets) (waiting : List Char) (text : List Char)
    (plain : ∀ char ∈ text, ¬brackets.IsBracket char) :
    brackets.stackAfter waiting text = some waiting := by
  induction text with
  | nil => rfl
  | cons char rest induction =>
      rw [stack_after_cons, brackets.meet_plain waiting char (plain char List.mem_cons_self),
        Option.bind_some, induction fun other member => plain other (List.mem_cons_of_mem _ member)]

/-- Braces around ordinary characters leave no trace. -/
theorem stack_after_braced (brackets : Brackets) (braces : brackets.BracesClose)
    (waiting : List Char) (content : List Char)
    (plain : ∀ char ∈ content, ¬brackets.IsBracket char) :
    brackets.stackAfter waiting ('{' :: content ++ ['}']) = some waiting := by
  rw [List.cons_append, stack_after_cons]
  -- Plain braces are passed over; paired ones put a closer on the stack and take it off again.
  rcases braces with ⟨opens, closes⟩ | ⟨paired, ends⟩
  · rw [brackets.meet_plain waiting '{' opens, Option.bind_some, stack_after_append,
      brackets.stack_after_plain waiting content plain, Option.bind_some, stack_after_cons,
      brackets.meet_plain waiting '}' closes]
    rfl
  · have opened : brackets.meet waiting '{' = some ('}' :: waiting) := by simp [meet, paired]
    rw [opened, Option.bind_some, stack_after_append,
      brackets.stack_after_plain _ content plain, Option.bind_some, stack_after_cons,
      brackets.meet_closer waiting '{' '}' paired ends]
    rfl

theorem stack_after_of_content (brackets : Brackets) (braces : brackets.BracesClose)
    (waiting : List Char) (spelling : Spelling) (after : List Char) (fits : spelling.Fits after)
    (closed : ∀ content, spelling ≠ .unclosed content)
    (plain : ∀ char, spelling = .bare char → ¬brackets.IsBracket char) :
    brackets.stackAfter waiting (Spelling.ofContent spelling.content).text =
      brackets.stackAfter waiting spelling.text := by
  cases spelling with
  | grouped content => rw [Spelling.content, Spelling.of_content_balanced content fits]
  | unclosed content => exact absurd rfl (closed content)
  | bare char =>
      have ordinary : ∀ other ∈ [char], ¬brackets.IsBracket other := by
        intro other member
        rw [List.mem_singleton.mp member]
        exact plain char rfl
      by_cases closes : char = '}'
      · rw [closes]
        rfl
      · have balanced := Spelling.balanced_single char fits closes
        rw [Spelling.content, Spelling.of_content_balanced [char] balanced]
        exact (stack_after_braced brackets braces waiting [char] ordinary).trans
          (stack_after_plain brackets waiting [char] ordinary).symm
  | absent =>
      exact stack_after_braced brackets braces waiting [] (by simp)

theorem stack_after_flat_map (brackets : Brackets) {α : Type} (parts : List α)
    (left right : α → List Char)
    (same : ∀ part ∈ parts, ∀ waiting,
      brackets.stackAfter waiting (left part) = brackets.stackAfter waiting (right part))
    (waiting : List Char) :
    brackets.stackAfter waiting (parts.flatMap left) =
      brackets.stackAfter waiting (parts.flatMap right) := by
  induction parts generalizing waiting with
  | nil => rfl
  | cons part rest induction =>
      rw [List.flatMap_cons, List.flatMap_cons, stack_after_append, stack_after_append,
        same part List.mem_cons_self]
      have later := induction fun other member => same other (List.mem_cons_of_mem _ member)
      simp only [later]

end Brackets

namespace Settings

/-- The tokens of a text do to the open brackets in the normal form what they do in the text. -/
theorem stack_after_normal_text (settings : Settings)
    (braces : (Brackets.ofString settings.brackets).BracesClose) (text : List Char)
    (keeps : settings.KeepsBrackets text) (waiting : List Char) :
    (Brackets.ofString settings.brackets).stackAfter waiting
        ((tokens settings text).flatMap Token.normalText) =
      (Brackets.ofString settings.brackets).stackAfter waiting text := by
  have tokenwise : ∀ token ∈ tokens settings text, ∀ outer,
      (Brackets.ofString settings.brackets).stackAfter outer token.normalText =
        (Brackets.ofString settings.brackets).stackAfter outer token.text := by
    intro token member outer
    have fitsAll := tokens_all_fit settings text
    obtain ⟨after, fits⟩ := Token.fits_of_mem settings _ fitsAll token member
    cases fits with
    | modifier marker spelling active spelled =>
        obtain ⟨closed, plain⟩ := keeps marker spelling member
        rw [Token.normalText, Token.text, Brackets.stack_after_cons, Brackets.stack_after_cons]
        have spelledAlike := fun inner =>
          Brackets.stack_after_of_content _ braces inner spelling after spelled closed plain
        simp only [spelledAlike]
    | number digits filled numeric ends => rfl
    | function name known opens => rfl
    | single char kind classified unnamed => rfl
  have whole := Brackets.stack_after_flat_map _ _ Token.normalText Token.text tokenwise waiting
  rw [tokens_text] at whole
  exact whole

end Settings

namespace Token

theorem blank_normal_text (token : Token) :
    token.normalText.all Text.isBlankChar = token.text.all Text.isBlankChar := by
  cases token with
  | atom kind value => rfl
  | modifier marker spelling =>
      have visible : Text.isBlankChar marker.char = false := by cases marker <;> decide
      simp [normalText, text, visible]

theorem equals_normal_text (token : Token) : '=' ∈ token.normalText ↔ '=' ∈ token.text := by
  cases token with
  | atom kind value => rfl
  | modifier marker spelling =>
      have other : '=' ≠ marker.char := by cases marker <;> decide
      simp only [normalText, text, List.mem_cons, other, false_or]
      rw [Spelling.mem_text_iff _ _ (by decide) (by decide), Spelling.of_content_content,
        Spelling.mem_text_iff _ _ (by decide) (by decide)]

end Token

namespace Adjacency

variable {ι : Type}

theorem first_unsurrounded_shapes (before : Bool) (elements : List (Element ι)) :
    firstUnsurroundedAfter before (Element.shapes elements) =
      firstUnsurroundedAfter before elements := by
  induction elements generalizing before with
  | nil => rfl
  | cons element rest induction =>
      have behind : startsWithOperand (Element.shapes rest) = startsWithOperand rest := by
        cases rest with
        | nil => rfl
        | cons next back => cases next; rfl
      obtain ⟨kind, value, children, id⟩ := element
      simp only [Element.shapes, firstUnsurroundedAfter, surrounded, induction, behind]
      rfl

theorem first_consecutive_shapes (before : Bool) (elements : List (Element ι)) :
    firstConsecutiveAfter before (Element.shapes elements) =
      firstConsecutiveAfter before elements := by
  induction elements generalizing before with
  | nil => rfl
  | cons element rest induction =>
      obtain ⟨kind, value, children, id⟩ := element
      simp only [Element.shapes, firstConsecutiveAfter, induction]
      rfl

theorem first_unsurrounded_same (left right : List (Element ι))
    (same : Element.shapes left = Element.shapes right) :
    firstUnsurrounded left = firstUnsurrounded right := by
  rw [firstUnsurrounded, ← first_unsurrounded_shapes, same, first_unsurrounded_shapes,
    firstUnsurrounded]

theorem first_consecutive_same (left right : List (Element ι))
    (same : Element.shapes left = Element.shapes right) :
    firstConsecutive left = firstConsecutive right := by
  rw [firstConsecutive, ← first_consecutive_shapes, same, first_consecutive_shapes,
    firstConsecutive]

end Adjacency

namespace Formula

variable (settings : Settings) (text : String)
  (unmarked : ∀ marker : Marker, text.toList.head? = some marker.char →
    settings.active marker = false)

include unmarked

theorem first_fault_normalize (braces : (Brackets.ofString settings.brackets).BracesClose)
    (keeps : settings.KeepsBrackets text.toList) :
    (Brackets.ofString settings.brackets).firstFault (normalize settings text).toList = none ↔
      (Brackets.ofString settings.brackets).firstFault text.toList = none := by
  have sameStack := settings.stack_after_normal_text braces text.toList keeps []
  rw [← normalize_unmarked settings text unmarked] at sameStack
  rw [Brackets.first_fault_eq_none_iff, Brackets.first_fault_eq_none_iff, sameStack]

theorem is_blank_normalize : Text.isBlank (normalize settings text) = Text.isBlank text := by
  -- What a normal form adds stands behind a marker, and a marker is no blank.
  rw [Text.isBlank, Text.isBlank, normalize_unmarked settings text unmarked]
  conv => rhs; rw [← tokens_text settings text.toList]
  simp only [List.all_flatMap, Token.blank_normal_text]

theorem equals_normalize :
    (normalize settings text).toList.contains '=' = text.toList.contains '=' := by
  rw [Bool.eq_iff_iff, List.contains_iff_mem, List.contains_iff_mem,
    normalize_unmarked settings text unmarked]
  conv => rhs; rw [← tokens_text settings text.toList]
  simp only [List.mem_flatMap, Token.equals_normal_text]

end Formula

/-- Both pass or both fail, and only brackets may be at fault at different positions. -/
def Finding.AgreesWith (check : Check) : Finding → Finding → Prop
  | .passed, .passed => True
  | .failed left, .failed right => check ≠ .bracketsMatch → left = right
  | _, _ => False

theorem Finding.agrees_with_self (check : Check) (finding : Finding) :
    finding.AgreesWith check finding := by
  cases finding with
  | passed => trivial
  | failed position => exact fun _ => rfl

theorem Finding.of_position_agrees (left right : Option Nat)
    (passes : left = none ↔ right = none) :
    (ofPosition? left).AgreesWith .bracketsMatch (ofPosition? right) := by
  cases left with
  | none =>
      rw [passes.mp rfl]
      trivial
  | some position =>
      cases right with
      | none => cases passes.mpr rfl
      | some other => exact fun checked => absurd rfl checked

theorem Check.find_agrees (settings : Settings)
    (braces : (Brackets.ofString settings.brackets).BracesClose) (text : String)
    (unmarked : ∀ marker : Marker, text.toList.head? = some marker.char →
      settings.active marker = false)
    (keeps : settings.KeepsBrackets text.toList) (left right : List (Element Id))
    (same : Element.shapes left = Element.shapes right) (check : Check) :
    (check.find settings (Formula.normalize settings text) left).AgreesWith check
      (check.find settings text right) := by
  cases check with
  | bracketsMatch =>
      -- Positions differ, so what is compared is only whether there is a fault.
      exact Finding.of_position_agrees _ _
        (Formula.first_fault_normalize settings text unmarked braces keeps)
  | operatorsSurrounded =>
      simp only [Check.find, Adjacency.first_unsurrounded_same left right same]
      exact Finding.agrees_with_self _ _
  | nonEmpty =>
      simp only [Check.find, Formula.is_blank_normalize settings text unmarked]
      exact Finding.agrees_with_self _ _
  | hasEquals =>
      simp only [Check.find, Formula.equals_normalize settings text unmarked]
      exact Finding.agrees_with_self _ _
  | noConsecutiveOperands =>
      simp only [Check.find, Adjacency.first_consecutive_same left right same]
      exact Finding.agrees_with_self _ _

end InlineFormula
