import InlineFormula.Formula.Text
import InlineFormula.Proofs.Scanning

/-!
Well-formed lists of elements: those that can have been read from a text. The conditions are on
the elements alone. Each needs a value that fits its kind and modifiers that can be spelled, and
some may not stand before certain others. What is read from a text is well formed.
-/

set_option autoImplicit false

namespace InlineFormula

open Token (leadingModifiers modifierShape assemble)

variable {ι : Type}

namespace Element

inductive Spells (settings : Settings) : Kind → String → Prop where
  | number (digits : String) (filled : digits ≠ "")
      (numeric : ∀ char ∈ digits.toList, isNumeric char = true) :
      Spells settings .number digits
  | function (name : String) (known : name ∈ settings.functionNames) :
      Spells settings .function name
  | single (char : Char) (kind : Kind) (classified : (settings.classify char).kind? = some kind) :
      Spells settings kind (String.ofList [char])

/-- What a child must be to have been read as a modifier. A group is left open only by the
modifier with which the text ends, and `last` tells whether this one is. -/
def IsSpelledModifier (settings : Settings) (last : Prop) (child : Element ι) : Prop :=
  child.children = [] ∧
    ∃ marker : Marker, child.kind = marker.kind ∧ settings.active marker = true ∧
      (child.value.toList = ['}'] ∨ Spelling.Balanced child.value.toList ∨
        Spelling.NeverOverclosed 0 child.value.toList ∧
          child.value.toList.count '}' < child.value.toList.count '{' ∧ last)

def AllSpelledModifiers (settings : Settings) (last : Prop) : List (Element ι) → Prop
  | [] => True
  | child :: rest =>
      child.IsSpelledModifier settings (rest = [] ∧ last) ∧ AllSpelledModifiers settings last rest

def IsPlainWordPart (element : Element ι) : Prop :=
  element.children = [] ∧ (element.kind = .letter ∨ element.kind = .function)

/-- What an element must be to have been read with `rest` behind it. A function stands right
before a parenthesis, a number takes in all digits that follow it, and no letter begins a word
that is a function's name and stands right before a parenthesis. -/
structure Stands (settings : Settings) (rest : List (Element ι)) (element : Element ι) :
    Prop where
  value : Spells settings element.kind element.value
  modifiers : AllSpelledModifiers settings (rest = []) element.children
  function : element.kind = .function →
    element.children = [] ∧ ∃ opening back, rest = opening :: back ∧ opening.value = "("
  number : element.kind = .number → element.children = [] →
    ∀ next back, rest = next :: back → next.kind ≠ .number
  letter : element.kind = .letter → ∀ word opening back,
    rest = word ++ opening :: back → opening.value = "(" →
      (∀ part ∈ element :: word, part.IsPlainWordPart) →
        Formula.plainText (element :: word) ∉ settings.functionNames

end Element

def Formula.WellFormed (settings : Settings) : List (Element ι) → Prop
  | [] => True
  | element :: rest => element.Stands settings rest ∧ WellFormed settings rest

namespace CharClass

theorem kind_ne_number (charClass : CharClass) : charClass.kind? ≠ some .number := by
  cases charClass <;> simp [kind?]

theorem kind_ne_function (charClass : CharClass) : charClass.kind? ≠ some .function := by
  cases charClass <;> simp [kind?]

end CharClass

namespace Token

theorem text_eq_nil (settings : Settings) (words : settings.NamesAreWords) (list : List Token)
    (fits : AllFit settings list) (empty : list.flatMap text = []) : list = [] := by
  cases list with
  | nil => rfl
  | cons token rest =>
      rw [List.flatMap_cons, List.append_eq_nil_iff] at empty
      exact absurd empty.1 (text_ne_nil_of_fits settings words token _ fits.1)

theorem spells_of_fits (settings : Settings) (kind : Kind) (value after : List Char)
    (fits : (atom kind value).Fits settings after) :
    Element.Spells settings kind (String.ofList value) := by
  cases fits with
  | number digits filled numeric ends =>
      apply Element.Spells.number
      · simpa using filled
      · simpa using numeric
  | function name known opens =>
      rw [String.ofList_toList]
      exact .function name known
  | single char kind classified unnamed => exact .single char kind classified

theorem leading_modifiers_spelled (settings : Settings) (words : settings.NamesAreWords)
    (list : List Token) (fits : AllFit settings list) :
    Element.AllSpelledModifiers settings (assemble list = []) (leadingModifiers list) := by
  induction list with
  | nil => trivial
  | cons token rest induction =>
      cases token with
      | atom kind value => trivial
      | modifier marker spelling =>
          rcases fits with ⟨first, others⟩
          refine ⟨⟨rfl, marker, rfl, ?_⟩, induction others⟩
          cases first with
          | modifier marker spelling active spelled =>
              have written := (Spelling.of_content_fits_iff spelling.content _).mp
                (Spelling.of_content_fits spelling _ spelled)
              simp only [modifierShape, String.toList_ofList]
              apply And.intro active
              -- Only a group that is left open says anything about what follows: nothing does.
              rcases written with lone | balanced | ⟨never, ahead, ended⟩
              · exact Or.inl lone
              · exact Or.inr (Or.inl balanced)
              · rw [text_eq_nil settings words rest others ended]
                exact Or.inr (Or.inr ⟨never, ahead, rfl, rfl⟩)

/-- Without modifiers between them, atoms are spelled one right after the other. -/
theorem plain_text_of_assembled (list : List Token) (bare : leadingModifiers list = [])
    (word : List Shape) (opening : Shape) (back : List Shape)
    (assembled : assemble list = word ++ opening :: back)
    (plain : ∀ part ∈ word, part.children = []) :
    (Formula.plainText word).toList ++ opening.value.toList <+: list.flatMap text := by
  induction list generalizing word with
  | nil => cases word <;> cases assembled
  | cons token rest induction =>
      cases token with
      | modifier marker spelling => cases bare
      | atom kind value =>
          cases word with
          | nil =>
              obtain ⟨rfl, rfl⟩ := List.cons.inj assembled
              simp [Formula.plainText, text]
          | cons part word =>
              obtain ⟨rfl, others⟩ := List.cons.inj assembled
              have alone : leadingModifiers rest = [] := plain _ List.mem_cons_self
              have later := induction alone word others
                (fun other member => plain other (List.mem_cons_of_mem _ member))
              simpa [Formula.plainText, text, String.toList_join] using later

theorem opening_of_fits (settings : Settings) (words : settings.NamesAreWords)
    (token : Token) (after : List Char) (fits : token.Fits settings after)
    (opens : token.text.head? = some '(') : ∃ kind, token = atom kind ['('] := by
  cases fits with
  | number digits filled numeric ends =>
      have digit := numeric '(' (List.mem_of_mem_head? opens)
      exact absurd digit (by decide)
  | function name known behind =>
      have letter := (function_name_letters name (words name known)).2 '('
        (List.mem_of_mem_head? opens)
      exact absurd letter (by decide)
  | single char kind classified unnamed =>
      have same : char = '(' := Option.some.inj opens
      exact ⟨kind, by rw [same]⟩
  | modifier marker spelling active spelled =>
      have same : marker.char = '(' := Option.some.inj opens
      cases marker <;> exact absurd same (by decide)

theorem opening_token (settings : Settings) (words : settings.NamesAreWords) (list : List Token)
    (fits : AllFit settings list) (opens : (list.flatMap text).head? = some '(') :
    ∃ kind more, list = atom kind ['('] :: more := by
  cases list with
  | nil => cases opens
  | cons token more =>
      have filled := text_ne_nil_of_fits settings words token _ fits.1
      rw [List.flatMap_cons, List.head?_append, List.head?_eq_some_head filled] at opens
      have start : token.text.head? = some '(' := (List.head?_eq_some_head filled).trans opens
      obtain ⟨kind, rfl⟩ := opening_of_fits settings words token _ fits.1 start
      exact ⟨kind, more, rfl⟩

theorem number_starts (settings : Settings) (value after : List Char)
    (fits : (atom .number value).Fits settings after) :
    ∃ digit, value.head? = some digit ∧ isNumeric digit = true := by
  cases fits with
  | single char _ classified unnamed => exact absurd classified (CharClass.kind_ne_number _)
  | number digits filled numeric ends =>
      cases value with
      | nil => exact absurd rfl filled
      | cons digit more => exact ⟨digit, rfl, numeric digit List.mem_cons_self⟩

theorem next_not_number (settings : Settings) (rest : List Token) (fits : AllFit settings rest)
    (bare : leadingModifiers rest = [])
    (ends : ∀ char, (rest.flatMap text).head? = some char → isNumeric char = false)
    (next : Shape) (back : List Shape) (behind : assemble rest = next :: back) :
    next.kind ≠ .number := by
  intro numeric
  cases rest with
  | nil => cases behind
  | cons token more =>
      cases token with
      | modifier marker spelling => cases bare
      | atom kind value =>
          obtain ⟨rfl, -⟩ := List.cons.inj behind
          obtain rfl : kind = .number := numeric
          obtain ⟨digit, first, isDigit⟩ := number_starts settings value _ fits.1
          have stopped := ends digit (by simp [text, first])
          rw [isDigit] at stopped
          cases stopped

theorem stands_of_fits (settings : Settings) (words : settings.NamesAreWords) (kind : Kind)
    (value : List Char) (rest : List Token)
    (fits : AllFit settings (atom kind value :: rest)) :
    Element.Stands settings (assemble rest)
      (⟨kind, String.ofList value, leadingModifiers rest, ()⟩ : Shape) := by
  rcases fits with ⟨first, others⟩
  constructor
  case value => exact spells_of_fits settings kind value _ first
  case modifiers => exact leading_modifiers_spelled settings words rest others
  case function =>
    intro isFunction
    obtain rfl : kind = .function := isFunction
    cases first with
    | single char _ classified unnamed => exact absurd classified (CharClass.kind_ne_function _)
    | function name known opens =>
        obtain ⟨kind, more, rfl⟩ := opening_token settings words rest others opens
        exact ⟨rfl, _, _, rfl, rfl⟩
  case number =>
    intro isNumber bare next back behind numeric
    obtain rfl : kind = .number := isNumber
    cases first with
    | single char _ classified unnamed => exact absurd classified (CharClass.kind_ne_number _)
    | number digits filled digitsNumeric ends =>
        exact next_not_number settings rest others bare ends next back behind numeric
  case letter =>
    intro isLetter word opening back behind parenthesis plain named
    obtain rfl : kind = .letter := isLetter
    have bare : leadingModifiers rest = [] := (plain _ List.mem_cons_self).1
    have spelled := plain_text_of_assembled rest bare word opening back behind
      (fun part member => (plain part (List.mem_cons_of_mem _ member)).1)
    rw [parenthesis] at spelled
    cases first with
    | single char _ classified unnamed =>
        -- The word and its parenthesis are what the letter stands before, in plain text.
        have free := (function_at_eq_none_iff settings _).mp (unnamed rfl) _ named
        apply free
        simpa [Formula.plainText, String.toList_join] using spelled

theorem assemble_well_formed (settings : Settings) (words : settings.NamesAreWords)
    (list : List Token) (fits : AllFit settings list) :
    Formula.WellFormed settings (assemble list) := by
  induction list with
  | nil => trivial
  | cons token rest induction =>
      cases token with
      | modifier marker spelling => exact induction fits.2
      | atom kind value =>
          have stands := stands_of_fits settings words kind value rest fits
          exact ⟨stands, induction fits.2⟩

end Token

theorem Formula.parse_well_formed (settings : Settings) (words : settings.NamesAreWords)
    (text : String) : WellFormed settings (parse settings text) :=
  Token.assemble_well_formed settings words _ (tokens_all_fit settings text.toList)

end InlineFormula
