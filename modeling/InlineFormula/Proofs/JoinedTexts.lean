import InlineFormula.Proofs.WellFormed

/-!
Reading a text that is joined from two. Each token of the first text is read as before when
nothing that could go on in it, or in front of which it could not stand, follows at the boundary;
the second text is read as it is read alone, and what it begins with decorates nothing before it.
-/

set_option autoImplicit false

namespace InlineFormula

open Token (leadingModifiers assemble AllFit)

namespace Token

theorem leading_modifiers_append (front back : List Token) (bare : leadingModifiers back = []) :
    leadingModifiers (front ++ back) = leadingModifiers front := by
  induction front with
  | nil => exact bare
  | cons token rest induction =>
      cases token with
      | atom kind value => rfl
      | modifier marker spelling =>
          rw [List.cons_append, leadingModifiers, leadingModifiers, induction]

theorem assemble_append (front back : List Token) (bare : leadingModifiers back = []) :
    assemble (front ++ back) = assemble front ++ assemble back := by
  induction front with
  | nil => rfl
  | cons token rest induction =>
      cases token with
      | modifier marker spelling => rw [List.cons_append, assemble, assemble, induction]
      | atom kind value =>
          rw [List.cons_append, assemble, assemble, leading_modifiers_append rest back bare,
            induction, List.cons_append]

theorem fits_of_split (settings : Settings) (before after : List Token) (token : Token)
    (fits : AllFit settings (before ++ token :: after)) :
    token.Fits settings (after.flatMap text) ∧ AllFit settings after := by
  induction before with
  | nil => exact fits
  | cons first rest induction => exact induction fits.2

theorem all_fit_append (settings : Settings) (list more : List Token)
    (others : AllFit settings more)
    (stay : ∀ before token after, list = before ++ token :: after →
      token.Fits settings (after.flatMap text ++ more.flatMap text)) :
    AllFit settings (list ++ more) := by
  induction list with
  | nil => exact others
  | cons token rest induction =>
      have first := stay [] token rest rfl
      rw [← List.flatMap_append] at first
      refine ⟨first, induction ?_⟩
      rintro before later after rfl
      exact stay (token :: before) later after rfl

/-- A marker without content, or a group that is left open: both take in what follows. -/
def IsUnfinished : Token → Prop
  | modifier _ (.unclosed _) => True
  | modifier _ .absent => True
  | _ => False

/-- What a token needs to stand before further text: it is no number that goes on there, no
letter that a name begins with there, and no modifier that is unfinished. -/
theorem fits_before (settings : Settings) (token : Token) (after back : List Char)
    (fits : token.Fits settings after)
    (finished : after = [] → ¬token.IsUnfinished)
    (number : after = [] → ∀ digits, token = atom .number digits →
      ∀ char, back.head? = some char → isNumeric char = false)
    (letter : ∀ char, token = atom .letter [char] →
      settings.functionAt? (char :: (after ++ back)) = none) :
    token.Fits settings (after ++ back) := by
  cases fits with
  | number digits filled numeric ends =>
      apply Fits.number digits filled numeric
      cases after with
      | nil => exact number rfl digits rfl
      | cons next behind => exact ends
  | function name known opens =>
      obtain ⟨behind, rfl⟩ := List.head?_eq_some_iff.mp opens
      exact .function name known rfl
  | single char kind classified unnamed =>
      apply Fits.single char kind classified
      rintro rfl
      exact letter char rfl
  | modifier marker spelling active spelled =>
      apply Fits.modifier marker spelling active
      cases spelling with
      | grouped content => exact spelled
      | bare char => exact spelled
      | unclosed content => exact absurd trivial (finished spelled.2)
      | absent => exact absurd trivial (finished spelled)

end Token

namespace Formula

structure MeetCleanly (settings : Settings) (front back : String) : Prop where
  finished : ∀ token, (tokens settings front.toList).getLast? = some token → ¬token.IsUnfinished
  unmarked : ∀ marker : Marker, back.toList.head? = some marker.char →
    settings.active marker = false
  number : ∀ last, (parse settings front).getLast? = some last → last.kind = .number →
    last.children = [] → ∀ char, back.toList.head? = some char → isNumeric char = false
  letter : ∀ before value after,
    tokens settings front.toList = before ++ .atom .letter value :: after →
      ∀ name ∈ settings.functionNames, ¬name.toList ++ ['('] <+:
        (front.toList ++ back.toList).drop (before.flatMap Token.text).length

theorem tokens_joined (settings : Settings) (words : settings.NamesAreWords)
    (front back : String) (clean : MeetCleanly settings front back) :
    tokens settings (front.toList ++ back.toList) =
      tokens settings front.toList ++ tokens settings back.toList := by
  have frontFits := tokens_all_fit settings front.toList
  have frontText := tokens_text settings front.toList
  rw [tokens_eq_iff settings words, List.flatMap_append, tokens_text, tokens_text]
  refine ⟨rfl, Token.all_fit_append settings _ _ (tokens_all_fit settings back.toList) ?_⟩
  intro before token after split
  rw [split] at frontFits frontText
  obtain ⟨fits, others⟩ := Token.fits_of_split settings before after token frontFits
  -- With no text behind it, the token is the last one.
  have last : after.flatMap Token.text = [] →
      tokens settings front.toList = before ++ [token] := by
    intro ended
    rw [split, Token.text_eq_nil settings words after others ended]
  rw [tokens_text]
  apply Token.fits_before settings token _ _ fits
  case finished =>
    intro ended
    apply clean.finished
    rw [last ended, List.getLast?_concat]
  case number =>
    rintro ended digits rfl
    apply clean.number ⟨.number, String.ofList digits, [], ()⟩ _ rfl rfl
    rw [parse, parseChars, last ended, Token.assemble_append before _ rfl]
    exact List.getLast?_concat
  case letter =>
    rintro char rfl
    rw [function_at_eq_none_iff]
    intro name known
    have free := clean.letter before [char] after split name known
    rw [← frontText] at free
    simpa [Token.text] using free

/-- Where two texts meet cleanly, the elements of both together are those of the first followed
by those of the second. -/
theorem parse_append (settings : Settings) (words : settings.NamesAreWords)
    (front back : String) (clean : MeetCleanly settings front back) (drawn first second : Nat) :
    Element.allSame (parseNumbered settings drawn (front ++ back))
      (parseNumbered settings first front ++ parseNumbered settings second back) = true := by
  have bare := leading_modifiers_unmarked settings back.toList clean.unmarked
  rw [Element.all_same_iff, Element.shapes_append, parse_numbered_shapes, parse_numbered_shapes,
    parse_numbered_shapes, ← Element.shapes_append, parse, parseChars, String.toList_append,
    tokens_joined settings words front back clean, Token.assemble_append _ _ bare]
  rfl

/-- The number behind the boundary would have gone on in the one before it, were that not the
content of a modifier. -/
theorem parse_append_after_modifier :
    (({} : Settings).NamesAreWords ∧ MeetCleanly {} "sin(x^2" "3)_a") ∧
      Element.allSame (parseNumbered {} 0 ("sin(x^2" ++ "3)_a"))
        (parseNumbered {} 0 "sin(x^2" ++ parseNumbered {} 4 "3)_a") = true := by
  have scanned : tokens {} "sin(x^2".toList =
      [.atom .function ['s', 'i', 'n'], .atom .bracket ['('], .atom .letter ['x'],
        .modifier .superscript (.bare '2')] := by
    decide +kernel
  have clean : MeetCleanly {} "sin(x^2" "3)_a" := by
    constructor
    case finished =>
      intro token last
      rw [scanned] at last
      cases last
      exact id
    case unmarked =>
      intro marker head
      cases marker <;> exact absurd head (by decide)
    case number =>
      intro last found number
      rw [parse, parseChars, scanned] at found
      cases found
      cases number
    case letter =>
      intro before value after split
      rw [scanned] at split
      -- The only letter stands behind the name and the parenthesis.
      have place : before = [.atom .function ['s', 'i', 'n'], .atom .bracket ['(']] := by
        rcases before with _ | ⟨first, _ | ⟨second, _ | ⟨third, _ | ⟨fourth, more⟩⟩⟩⟩ <;>
          simp_all
      rw [place]
      decide
  exact ⟨⟨names_are_words_standard, clean⟩,
    parse_append {} names_are_words_standard _ _ clean 0 0 4⟩

end Formula

end InlineFormula
