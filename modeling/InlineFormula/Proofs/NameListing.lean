import InlineFormula.Proofs.JoinedTexts

/-!
The listing of function names. Of the names that settings list, at most one stands before a
parenthesis at any place of a text; so it does not matter in which order they are tried, nor how
often they are listed, and the function that is read there has that name.
-/

set_option autoImplicit false

namespace InlineFormula

open Token (leadingModifiers assemble)

def SameNames (left right : List String) : Prop := ∀ name, name ∈ left ↔ name ∈ right

namespace Settings

theorem words_of_same_names (settings : Settings) (words : settings.NamesAreWords)
    (names : List String) (same : SameNames names settings.functionNames) :
    ({ settings with functionNames := names } : Settings).NamesAreWords := by
  intro name known
  exact words name ((same name).mp known)

theorem function_at_same_names (settings : Settings) (words : settings.NamesAreWords)
    (names : List String) (same : SameNames names settings.functionNames) (text : List Char) :
    ({ settings with functionNames := names } : Settings).functionAt? text =
      settings.functionAt? text := by
  apply Option.ext
  intro name
  rw [function_at_eq_some_iff _ (settings.words_of_same_names words names same),
    function_at_eq_some_iff settings words]
  exact and_congr_left fun _ => same name

end Settings

/-- A scan uses the names only to find out which of them stands where it is. -/
theorem tokens_same_names (settings : Settings) (names : List String)
    (same : ∀ text, ({ settings with functionNames := names } : Settings).functionAt? text =
      settings.functionAt? text) (text : List Char) :
    tokens { settings with functionNames := names } text = tokens settings text := by
  have first (char : Char) (rest : List Char) :
      Token.read { settings with functionNames := names } char rest =
        Token.read settings char rest := by
    rw [Token.read, same]
    rfl
  fun_induction tokens settings text with
  | case1 => exact tokens_nil _
  | case2 char rest step induction => rw [tokens_cons, first, induction]

theorem parse_same_names (settings : Settings) (words : settings.NamesAreWords)
    (names : List String) (same : SameNames names settings.functionNames) (text : String) :
    Formula.parse { settings with functionNames := names } text = Formula.parse settings text := by
  have scanned := tokens_same_names settings names
    (settings.function_at_same_names words names same) text.toList
  rw [Formula.parse, Formula.parseChars, scanned]
  rfl

/-- A scan goes on from each of its tokens as if the text began there. -/
theorem tokens_behind (settings : Settings) (words : settings.NamesAreWords) (text : List Char)
    (before after : List Token) (split : tokens settings text = before ++ after) :
    text.drop (before.flatMap Token.text).length = after.flatMap Token.text ∧
      tokens settings (after.flatMap Token.text) = after := by
  have whole := tokens_text settings text
  have fits := tokens_all_fit settings text
  rw [split] at whole fits
  rw [List.flatMap_append] at whole
  constructor
  · rw [← whole, List.drop_left]
  · rw [tokens_eq_iff settings words]
    refine ⟨rfl, ?_⟩
    clear whole split
    induction before with
    | nil => exact fits
    | cons token rest induction => exact induction fits.2

/-- A function is read exactly where one of the names stands before a parenthesis. -/
theorem read_function_iff (settings : Settings) (words : settings.NamesAreWords) (char : Char)
    (rest : List Char) (name : String) :
    (Token.read settings char rest).1 = .atom .function name.toList ↔
      name ∈ settings.functionNames ∧ name.toList ++ ['('] <+: char :: rest := by
  constructor
  · intro emitted
    rw [Token.read] at emitted
    split at emitted
    case h_2 letter =>
      split at emitted
      case h_1 found named =>
        have spelled := (Token.atom.inj emitted).2
        rw [String.toList_inj] at spelled
        rw [← spelled]
        exact function_at_known settings _ found named
      case h_2 => cases emitted
    all_goals cases emitted
  · intro named
    have found := (function_at_eq_some_iff settings words (char :: rest) name).mpr named
    rcases function_name_letters name (words name named.1) with ⟨filled, letters⟩
    have start : char ∈ name.toList := by
      rcases List.exists_cons_of_ne_nil filled with ⟨first, tail, spelled⟩
      rcases named with ⟨known, behind, split⟩
      rw [spelled] at split ⊢
      rw [← (List.cons.inj split).1]
      exact List.mem_cons_self
    have letter := classify_alpha settings char (letters char start)
    simp only [Token.read, letter, found]

/-- Whatever the order and the repetitions in which names are listed, every text is read alike.
At most one name stands before a parenthesis at a place, and where the scan comes to such a
place, the function with that name is read, and at no other. -/
theorem functions_independent_of_listing (settings : Settings) (words : settings.NamesAreWords)
    (names : List String) (same : SameNames names settings.functionNames) :
    (∀ text,
      Formula.parse { settings with functionNames := names } text = Formula.parse settings text ∧
      Formula.parse { settings with functionNames := longestFirst names } text =
        Formula.parse settings text) ∧
    (∀ (text : List Char) (position : Nat) (left right : String),
      left ∈ names → left.toList ++ ['('] <+: text.drop position →
      right ∈ names → right.toList ++ ['('] <+: text.drop position → left = right) ∧
    ∀ (text : String) (before after : List Token) (token : Token),
      tokens settings text.toList = before ++ token :: after →
      let behind := text.toList.drop (before.flatMap Token.text).length
      (∀ name, token = .atom .function name.toList ↔
        name ∈ names ∧ name.toList ++ ['('] <+: behind) ∧
      ∀ name ∈ names, name.toList ++ ['('] <+: behind →
        Formula.parse settings text =
          assemble before ++ ⟨.function, name, leadingModifiers after, ()⟩ :: assemble after := by
  refine ⟨?_, ?_, ?_⟩
  · intro text
    constructor
    · exact parse_same_names settings words names same text
    · apply parse_same_names settings words
      intro name
      rw [mem_longest_first, same name]
  · intro text position left right leftKnown leftFits rightKnown rightFits
    have leftLetters := (function_name_letters left (words left ((same left).mp leftKnown))).2
    have rightLetters := (function_name_letters right (words right ((same right).mp rightKnown))).2
    exact String.toList_inj.mp
      (word_before_parenthesis _ _ _ leftLetters rightLetters leftFits rightFits)
  · intro text before after token split behind
    have scanned : tokens settings behind = token :: after := by
      have found := tokens_behind settings words text.toList before (token :: after) split
      rw [← found.1] at found
      exact found.2
    have emitted : ∀ name, token = .atom .function name.toList ↔
        name ∈ names ∧ name.toList ++ ['('] <+: behind := by
      intro name
      cases start : behind with
      | nil =>
          rw [start, tokens_nil] at scanned
          cases scanned
      | cons char more =>
          rw [start, tokens_cons] at scanned
          rw [← (List.cons.inj scanned).1, read_function_iff settings words, same name]
    refine ⟨emitted, ?_⟩
    intro name known fits
    have function := (emitted name).mpr ⟨known, fits⟩
    rw [Formula.parse, Formula.parseChars, split, function,
      Token.assemble_append before _ rfl, assemble, String.ofList_toList]

def overlapping : Settings := { functionNames := ["log", "lo", "g", "arclog"] }

theorem functions_independent_of_listing_overlapping :
    overlapping.NamesAreWords ∧
      SameNames ["g", "arclog", "lo", "log", "lo"] overlapping.functionNames ∧
      tokens overlapping "xlog(".toList =
        [.atom .letter ['x']] ++ .atom .function ['l', 'o', 'g'] :: [.atom .bracket ['(']] ∧
      Formula.parse { overlapping with functionNames := ["g", "arclog", "lo", "log", "lo"] }
        "xlog(" = Formula.parse overlapping "xlog(" ∧
      Formula.parse overlapping "xlog(" =
        [⟨.letter, "x", [], ()⟩, ⟨.function, "log", [], ()⟩, ⟨.bracket, "(", [], ()⟩] := by
  have words : overlapping.NamesAreWords := by
    unfold Settings.NamesAreWords
    decide
  have same : SameNames ["g", "arclog", "lo", "log", "lo"] overlapping.functionNames := by
    intro name
    simp only [overlapping, List.mem_cons, List.not_mem_nil, or_false]
    grind
  have split : tokens overlapping "xlog(".toList =
      [.atom .letter ['x']] ++ .atom .function ['l', 'o', 'g'] :: [.atom .bracket ['(']] := by
    decide +kernel
  have laws := functions_independent_of_listing overlapping words _ same
  have named := (laws.2.2 "xlog(" _ _ _ split).2 "log" (by decide) (by decide)
  exact ⟨words, same, split, (laws.1 "xlog(").1, named⟩

end InlineFormula
