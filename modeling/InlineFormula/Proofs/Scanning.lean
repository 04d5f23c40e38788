import InlineFormula.Formula.Parse
import InlineFormula.Proofs.Braces
import InlineFormula.Proofs.FunctionNames

/-!
What a scan gives. Of every token it is said where it may stand, and a list of tokens whose
members all may stand where they do is the one that its text is scanned into.
-/

set_option autoImplicit false

namespace InlineFormula

def CharClass.kind? : CharClass → Option Kind
  | numeric => none
  | letter => some .letter
  | operator => some .operator
  | bracket => some .bracket
  | marker _ => none
  | symbol => some .symbol

theorem classify_numeric_iff (settings : Settings) (char : Char) :
    settings.classify char = .numeric ↔ isNumeric char = true := by
  unfold Settings.classify
  repeat' split
  all_goals simp_all

theorem alpha_not_numeric (char : Char) (alpha : char.isAlpha = true) :
    isNumeric char = false := by
  have lower : 65 ≤ char.toNat := by
    rcases Bool.or_eq_true_iff.mp alpha with upperCase | lowerCase
    · have bound := UInt32.le_iff_toNat_le.mp (of_decide_eq_true upperCase).1
      exact bound
    · have bound := UInt32.le_iff_toNat_le.mp
        (of_decide_eq_true (Bool.and_eq_true_iff.mp lowerCase).1)
      exact Nat.le_trans (by decide) bound
  have digit : char.isDigit = false := by
    apply Bool.eq_false_iff.mpr
    intro found
    have bound := UInt32.le_iff_toNat_le.mp
      (of_decide_eq_true (Bool.and_eq_true_iff.mp found).2)
    have small : char.toNat ≤ 57 := bound
    omega
  have point : (char == '.') = false := by
    apply beq_eq_false_iff_ne.mpr
    intro same
    rw [same] at lower
    exact absurd lower (by decide)
  rw [isNumeric, digit, point]
  rfl

theorem numeric_not_alpha (char : Char) (numeric : isNumeric char = true) :
    char.isAlpha = false := by
  apply Bool.eq_false_iff.mpr
  intro alpha
  rw [alpha_not_numeric char alpha] at numeric
  cases numeric

theorem classify_alpha (settings : Settings) (char : Char) (alpha : char.isAlpha = true) :
    settings.classify char = .letter :=
  (classify_letter_iff settings char).mpr ⟨alpha_not_numeric char alpha, alpha⟩

theorem numeric_run (digits after : List Char)
    (numeric : ∀ char ∈ digits, isNumeric char = true)
    (ends : ∀ char, after.head? = some char → isNumeric char = false) :
    (digits ++ after).takeWhile isNumeric = digits ∧
      (digits ++ after).dropWhile isNumeric = after := by
  rw [List.takeWhile_append_of_pos numeric, List.dropWhile_append_of_pos numeric]
  cases after with
  | nil => simp
  | cons next behind => simp [ends next rfl]

namespace Token

/-- Where a token may stand, `after` being the text behind it. -/
inductive Fits (settings : Settings) (after : List Char) : Token → Prop where
  | number (digits : List Char) (filled : digits ≠ [])
      (numeric : ∀ char ∈ digits, isNumeric char = true)
      (ends : ∀ char, after.head? = some char → isNumeric char = false) :
      Fits settings after (atom .number digits)
  | function (name : String) (known : name ∈ settings.functionNames)
      (opens : after.head? = some '(') : Fits settings after (atom .function name.toList)
  | single (char : Char) (kind : Kind) (classified : (settings.classify char).kind? = some kind)
      (unnamed : kind = .letter → settings.functionAt? (char :: after) = none) :
      Fits settings after (atom kind [char])
  | modifier (marker : Marker) (spelling : Spelling) (active : settings.active marker = true)
      (fits : spelling.Fits after) : Fits settings after (modifier marker spelling)

theorem read_fits (settings : Settings) (char : Char) (rest : List Char) :
    (read settings char rest).1.Fits settings (read settings char rest).2 := by
  rw [read]
  split
  case h_1 numeric =>
    apply Fits.number _ (by simp)
    · intro digit member
      rcases List.mem_cons.mp member with rfl | inside
      · exact (classify_numeric_iff settings digit).mp numeric
      · exact List.all_eq_true.mp List.all_takeWhile digit inside
    · intro next head
      have stopped := List.head?_dropWhile_not isNumeric rest
      rw [head] at stopped
      exact stopped
  case h_2 letter =>
    split
    case h_1 name found =>
      obtain ⟨tail, spelled, fits⟩ := function_at_letter settings char rest name letter found
      obtain ⟨back, rfl⟩ := List.isPrefixOf_iff_prefix.mp fits
      apply Fits.function name (function_at_known settings _ name found).1
      simp [spelled]
    case h_2 unnamed => exact .single char .letter (by rw [letter]; rfl) (fun _ => unnamed)
  case h_3 operator => exact .single char .operator (by rw [operator]; rfl) (by simp)
  case h_4 bracket => exact .single char .bracket (by rw [bracket]; rfl) (by simp)
  case h_5 symbol => exact .single char .symbol (by rw [symbol]; rfl) (by simp)
  case h_6 marker marked =>
    exact .modifier marker _ ((classify_marker_iff settings char marker).mp marked).2
      (Spelling.read_fits rest)

theorem read_single (settings : Settings) (char : Char) (kind : Kind) (after : List Char)
    (classified : (settings.classify char).kind? = some kind)
    (unnamed : kind = .letter → settings.functionAt? (char :: after) = none) :
    read settings char after = (atom kind [char], after) := by
  cases class_ : settings.classify char with
  | letter =>
      rw [class_] at classified
      cases classified
      simp only [read, class_, unnamed rfl]
  | numeric => simp [class_, CharClass.kind?] at classified
  | marker marker => simp [class_, CharClass.kind?] at classified
  | operator =>
      rw [class_] at classified
      cases classified
      simp only [read, class_]
  | bracket =>
      rw [class_] at classified
      cases classified
      simp only [read, class_]
  | symbol =>
      rw [class_] at classified
      cases classified
      simp only [read, class_]

theorem read_of_fits (settings : Settings) (words : settings.NamesAreWords) (token : Token)
    (after : List Char) (fits : token.Fits settings after) :
    ∃ char rest, token.text ++ after = char :: rest ∧
      read settings char rest = (token, after) := by
  cases fits with
  | number digits filled numeric ends =>
      cases digits with
      | nil => exact absurd rfl filled
      | cons digit more =>
          have start := (classify_numeric_iff settings digit).mpr (numeric digit (by simp))
          have inside : ∀ char ∈ more, isNumeric char = true :=
            fun char member => numeric char (by simp [member])
          -- The run of digits does not go on into the text behind it.
          have run := numeric_run more after inside ends
          refine ⟨digit, more ++ after, rfl, ?_⟩
          simp only [read, start, run.1, run.2]
  | function name known opens =>
      obtain ⟨filled, letters⟩ := function_name_letters name (words name known)
      cases spelled : name.toList with
      | nil => exact absurd spelled filled
      | cons first tail =>
          have start := classify_alpha settings first (letters first (by simp [spelled]))
          obtain ⟨behind, rfl⟩ := List.head?_eq_some_iff.mp opens
          have found : settings.functionAt? (first :: (tail ++ '(' :: behind)) = some name := by
            rw [function_at_eq_some_iff settings words, spelled]
            exact ⟨known, behind, by simp⟩
          refine ⟨first, tail ++ '(' :: behind, rfl, ?_⟩
          simp only [read, start, found, spelled]
          simp
  | single char kind classified unnamed =>
      exact ⟨char, after, rfl, read_single settings char kind after classified unnamed⟩
  | modifier marker spelling active fits =>
      have start := (classify_marker_iff settings marker.char marker).mpr ⟨rfl, active⟩
      have found := Spelling.read_of_fits spelling after fits
      refine ⟨marker.char, spelling.text ++ after, rfl, ?_⟩
      simp only [read, start, found]

theorem text_ne_nil_of_fits (settings : Settings) (words : settings.NamesAreWords)
    (token : Token) (after : List Char) (fits : token.Fits settings after) : token.text ≠ [] := by
  cases fits with
  | number digits filled numeric ends => exact filled
  | function name known opens => exact (function_name_letters name (words name known)).1
  | single char kind classified unnamed => exact List.cons_ne_nil _ _
  | modifier marker spelling active fits => exact List.cons_ne_nil _ _

def AllFit (settings : Settings) : List Token → Prop
  | [] => True
  | token :: rest => token.Fits settings (rest.flatMap text) ∧ AllFit settings rest

end Token

theorem tokens_all_fit (settings : Settings) (text : List Char) :
    Token.AllFit settings (tokens settings text) := by
  fun_induction tokens settings text with
  | case1 => trivial
  | case2 char rest step induction =>
      have first := Token.read_fits settings char rest
      apply And.intro _ induction
      rw [tokens_text]
      exact first

/-- Modifiers come first only in a text that starts with an active marker. -/
theorem marker_of_leading_modifiers (settings : Settings) (text : List Char)
    (dropped : Token.leadingModifiers (tokens settings text) ≠ []) :
    ∃ marker : Marker, text.head? = some marker.char ∧ settings.active marker = true := by
  have fits := tokens_all_fit settings text
  have whole := tokens_text settings text
  cases scanned : tokens settings text with
  | nil =>
      rw [scanned] at dropped
      exact absurd rfl dropped
  | cons token rest =>
      rw [scanned] at dropped fits whole
      rw [← whole]
      cases fits.1 with
      | modifier marker spelling active spelled => exact ⟨marker, rfl, active⟩
      | number digits filled numeric ends => exact absurd rfl dropped
      | function name known opens => exact absurd rfl dropped
      | single char kind classified unnamed => exact absurd rfl dropped

theorem leading_modifiers_unmarked (settings : Settings) (text : List Char)
    (unmarked : ∀ marker : Marker, text.head? = some marker.char →
      settings.active marker = false) : Token.leadingModifiers (tokens settings text) = [] := by
  apply Classical.byContradiction
  intro dropped
  obtain ⟨marker, head, active⟩ := marker_of_leading_modifiers settings text dropped
  rw [unmarked marker head] at active
  cases active

/-- The tokens of a text are the only ones that spell it and all may stand where they do. -/
theorem tokens_eq_iff (settings : Settings) (words : settings.NamesAreWords) (text : List Char)
    (list : List Token) :
    tokens settings text = list ↔ list.flatMap Token.text = text ∧ Token.AllFit settings list := by
  constructor
  · intro same
    rw [← same]
    exact ⟨tokens_text settings text, tokens_all_fit settings text⟩
  · intro spelled
    rcases spelled with ⟨whole, fits⟩
    subst text
    -- On the list: its first token is read in front of what the others spell.
    induction list with
    | nil => exact tokens_nil settings
    | cons token rest induction =>
        obtain ⟨char, behind, split, found⟩ := Token.read_of_fits settings words token
          (rest.flatMap Token.text) fits.1
        rw [List.flatMap_cons, split, tokens_cons, found, induction fits.2]

end InlineFormula
