import InlineFormula.Formula.Token

/-!
Function names. They are words, and a word is followed by a parenthesis in only one way; so the
name found in a text does not hang on the order in which the names are listed.
-/

set_option autoImplicit false

namespace InlineFormula

/-- The names that settings accept: each is a non-empty text of ASCII letters. -/
def Settings.NamesAreWords (settings : Settings) : Prop :=
  ∀ name ∈ settings.functionNames, Setting.isFunctionName name = true

theorem names_are_words_standard : ({} : Settings).NamesAreWords := by
  unfold Settings.NamesAreWords
  decide

theorem function_name_letters (name : String) (named : Setting.isFunctionName name = true) :
    name.toList ≠ [] ∧ ∀ char ∈ name.toList, char.isAlpha = true := by
  simp only [Setting.isFunctionName, Bool.and_eq_true, Bool.not_eq_true',
    List.all_eq_true] at named
  apply And.intro _ named.2
  intro empty
  rw [String.toList_eq_nil_iff.mp empty] at named
  exact absurd named.1 (by decide)

theorem insert_by_length_append (name : String) (longer others : List String)
    (behind : ∀ other ∈ longer, name.length < other.length)
    (before : ∀ other ∈ others, other.length ≤ name.length) :
    insertByLength name (longer ++ others) = longer ++ name :: others := by
  induction longer with
  | nil =>
      cases others with
      | nil => rfl
      | cons other others =>
          exact if_neg (Nat.not_lt_of_le (before other List.mem_cons_self))
  | cons first longer induction =>
      rw [List.cons_append, insertByLength, if_pos (behind first List.mem_cons_self),
        induction fun other member => behind other (List.mem_cons_of_mem first member)]
      rfl

/-- Names are tried in the order that a stable sort by length gives them. -/
theorem longest_first_eq_merge_sort (names : List String) :
    longestFirst names = names.mergeSort fun left right => right.length ≤ left.length := by
  have total (left right : String) :
      (decide (right.length ≤ left.length) || decide (left.length ≤ right.length)) = true := by
    simpa using Nat.le_total right.length left.length
  have trans (left middle right : String) :
      decide (middle.length ≤ left.length) = true → decide (right.length ≤ middle.length) = true →
        decide (right.length ≤ left.length) = true := by
    simpa using fun first second => Nat.le_trans second first
  induction names with
  | nil => rw [List.mergeSort_nil]; rfl
  | cons name names induction =>
      obtain ⟨longer, others, sorted, rest, behind⟩ := List.mergeSort_cons trans total name names
      have ordered := List.pairwise_mergeSort trans total (name :: names)
      rw [sorted] at ordered
      have before := (List.pairwise_cons.mp (List.pairwise_append.mp ordered).2.1).1
      rw [longestFirst, List.foldr_cons, ← longestFirst, induction, rest, sorted]
      apply insert_by_length_append
      · simpa using behind
      · simpa using before

theorem mem_longest_first (names : List String) (name : String) :
    name ∈ longestFirst names ↔ name ∈ names := by
  rw [longest_first_eq_merge_sort, List.mem_mergeSort]

theorem letters_before_parenthesis (word back : List Char)
    (letters : ∀ char ∈ word, char.isAlpha = true) :
    (word ++ '(' :: back).takeWhile Char.isAlpha = word := by
  have parenthesis : '('.isAlpha = false := by decide
  rw [List.takeWhile_append_of_pos letters, List.takeWhile_cons_of_neg (by simp [parenthesis]),
    List.append_nil]

/-- A parenthesis is no letter, so a word ends where the parenthesis behind it stands. -/
theorem word_before_parenthesis (left right text : List Char)
    (leftLetters : ∀ char ∈ left, char.isAlpha = true)
    (rightLetters : ∀ char ∈ right, char.isAlpha = true)
    (leftFits : left ++ ['('] <+: text) (rightFits : right ++ ['('] <+: text) :
    left = right := by
  obtain ⟨leftBack, leftText⟩ := leftFits
  obtain ⟨rightBack, rightText⟩ := rightFits
  have same : left ++ '(' :: leftBack = right ++ '(' :: rightBack := by
    simpa using leftText.trans rightText.symm
  rw [← letters_before_parenthesis left leftBack leftLetters, same,
    letters_before_parenthesis right rightBack rightLetters]

theorem function_at_eq_none_iff (settings : Settings) (text : List Char) :
    settings.functionAt? text = none ↔
      ∀ name ∈ settings.functionNames, ¬name.toList ++ ['('] <+: text := by
  simp [Settings.functionAt?, mem_longest_first]

theorem function_at_known (settings : Settings) (text : List Char) (name : String)
    (found : settings.functionAt? text = some name) :
    name ∈ settings.functionNames ∧ name.toList ++ ['('] <+: text := by
  rw [Settings.functionAt?] at found
  have among := List.mem_of_find?_eq_some found
  have fits := List.find?_some found
  exact ⟨(mem_longest_first _ _).mp among, List.isPrefixOf_iff_prefix.mp fits⟩

theorem function_at_eq_some_iff (settings : Settings) (words : settings.NamesAreWords)
    (text : List Char) (name : String) :
    settings.functionAt? text = some name ↔
      name ∈ settings.functionNames ∧ name.toList ++ ['('] <+: text := by
  constructor
  · exact function_at_known settings text name
  · intro named
    rcases named with ⟨known, fits⟩
    cases found : settings.functionAt? text with
    | none => exact absurd fits ((function_at_eq_none_iff settings text).mp found name known)
    | some other =>
        have ⟨otherKnown, otherFits⟩ := function_at_known settings text other found
        -- Both names end at the parenthesis behind them, so they are one.
        have same := word_before_parenthesis other.toList name.toList text
          (function_name_letters other (words other otherKnown)).2
          (function_name_letters name (words name known)).2 otherFits fits
        rw [String.toList_inj.mp same]

end InlineFormula
