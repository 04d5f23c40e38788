import InlineFormula.Proofs.WellFormed

/-!
Writing and reading back. A well-formed list is written as tokens that all may stand where they
do, so it is read back as it was; and since all that is read is well formed, exactly the
well-formed lists survive, and reading cannot tell a text from its normal form.
-/

set_option autoImplicit false

namespace InlineFormula

open Token (leadingModifiers modifierShape assemble AllFit)

variable {ι : Type}

namespace Element

mutual
theorem shape_self : (element : Shape) → element.shape = element
  | ⟨_, _, children, ()⟩ => by simp [shape, shapes_self children]

theorem shapes_self : (elements : List Shape) → shapes elements = elements
  | [] => rfl
  | element :: rest => by simp [shapes, shape_self element, shapes_self rest]
end

def modifierToken? (child : Element ι) : Option Token :=
  (Marker.ofKind? child.kind).map fun marker =>
    .modifier marker (Spelling.ofContent child.value.toList)

def writtenTokens (element : Element ι) : List Token :=
  .atom element.kind element.value.toList :: element.children.filterMap modifierToken?

theorem modifier_tokens_text (children : List (Element ι)) :
    (children.filterMap modifierToken?).flatMap Token.text = children.flatMap modifierText := by
  induction children with
  | nil => rfl
  | cons child rest induction =>
      cases found : Marker.ofKind? child.kind <;>
        simp [modifierToken?, modifierText, found, Token.text, ← induction]

theorem spelled_modifier_token (settings : Settings) (last : Prop) (child : Element ι)
    (spelled : child.IsSpelledModifier settings last) :
    ∃ marker, child.kind = marker.kind ∧ settings.active marker = true ∧
      child.modifierToken? =
        some (.modifier marker (Spelling.ofContent child.value.toList)) := by
  rcases spelled with ⟨-, marker, named, active, -⟩
  refine ⟨marker, named, active, ?_⟩
  rw [modifierToken?, Marker.of_kind_eq_some.mpr named, Option.map_some]

end Element

namespace Formula

def writtenTokens (elements : List (Element ι)) : List Token :=
  elements.flatMap Element.writtenTokens

theorem written_tokens_cons (element : Element ι) (rest : List (Element ι)) :
    writtenTokens (element :: rest) = .atom element.kind element.value.toList ::
      (element.children.filterMap Element.modifierToken? ++ writtenTokens rest) := by
  simp [writtenTokens, Element.writtenTokens]

theorem write_chars_cons (element : Element ι) (rest : List (Element ι)) :
    writeChars (element :: rest) =
      element.value.toList ++ (element.children.flatMap Element.modifierText ++
        writeChars rest) := by
  simp [writeChars, Element.text]

theorem written_tokens_text (elements : List (Element ι)) :
    (writtenTokens elements).flatMap Token.text = writeChars elements := by
  induction elements with
  | nil => rfl
  | cons element rest induction =>
      rw [written_tokens_cons, write_chars_cons, List.flatMap_cons, List.flatMap_append,
        Element.modifier_tokens_text, induction]
      rfl

end Formula

namespace Token

theorem assemble_modifiers (children : List (Element ι)) (rest : List Token) :
    assemble (children.filterMap Element.modifierToken? ++ rest) = assemble rest := by
  induction children with
  | nil => rfl
  | cons child children induction =>
      cases found : Marker.ofKind? child.kind <;>
        simp [Element.modifierToken?, found, assemble, induction]

theorem leading_modifiers_written (settings : Settings) (last : Prop)
    (children : List (Element ι)) (rest : List Token)
    (spelled : Element.AllSpelledModifiers settings last children)
    (atomic : leadingModifiers rest = []) :
    leadingModifiers (children.filterMap Element.modifierToken? ++ rest) =
      Element.shapes children := by
  induction children with
  | nil => exact atomic
  | cons child children induction =>
      rcases spelled with ⟨first, others⟩
      obtain ⟨marker, named, -, token⟩ :=
        Element.spelled_modifier_token settings _ child first
      rw [List.filterMap_cons_some token, List.cons_append, leadingModifiers, induction others]
      obtain ⟨kind, value, grandchildren, id⟩ := child
      obtain rfl : kind = marker.kind := named
      obtain rfl : grandchildren = [] := first.1
      simp [modifierShape, Element.shapes, Element.shape, Spelling.of_content_content]

theorem assemble_written (settings : Settings) (elements : List (Element ι))
    (wellFormed : Formula.WellFormed settings elements) :
    assemble (Formula.writtenTokens elements) = Element.shapes elements := by
  induction elements with
  | nil => rfl
  | cons element rest induction =>
      rcases wellFormed with ⟨stands, others⟩
      have atomic : leadingModifiers (Formula.writtenTokens rest) = [] := by
        cases rest <;> rfl
      have children := leading_modifiers_written settings _ element.children _
        stands.modifiers atomic
      rw [Formula.written_tokens_cons, assemble, children, assemble_modifiers, induction others]
      obtain ⟨kind, value, grandchildren, id⟩ := element
      simp [Element.shapes, Element.shape]

/-- Only the modifier with which everything ends may leave a group open. -/
theorem all_fit_modifiers (settings : Settings) (last : Prop) (children : List (Element ι))
    (rest : List Token) (spelled : Element.AllSpelledModifiers settings last children)
    (fits : AllFit settings rest) (ended : last → rest = []) :
    AllFit settings (children.filterMap Element.modifierToken? ++ rest) := by
  induction children with
  | nil => exact fits
  | cons child children induction =>
      rcases spelled with ⟨first, others⟩
      obtain ⟨marker, -, active, token⟩ := Element.spelled_modifier_token settings _ child first
      rw [List.filterMap_cons_some token, List.cons_append]
      refine ⟨.modifier marker _ active ?_, induction others⟩
      rw [Spelling.of_content_fits_iff]
      rcases first with ⟨-, _, -, -, lone | balanced | ⟨never, ahead, final, isLast⟩⟩
      · exact Or.inl lone
      · exact Or.inr (Or.inl balanced)
      · apply Or.inr
        apply Or.inr
        refine ⟨never, ahead, ?_⟩
        rw [final, ended isLast]
        rfl

end Token

namespace Element

/-- The text behind an element starts with a marker or with the next element. -/
theorem children_text_head (settings : Settings) (last : Prop) (children : List (Element ι))
    (spelled : AllSpelledModifiers settings last children) :
    children = [] ∨ ∃ (marker : Marker) (tail : List Char),
      children.flatMap modifierText = marker.char :: tail := by
  cases children with
  | nil => exact Or.inl rfl
  | cons child rest =>
      rcases spelled.1 with ⟨-, marker, named, -⟩
      apply Or.inr
      refine ⟨marker, (Spelling.ofContent child.value.toList).text ++
        rest.flatMap modifierText, ?_⟩
      rw [List.flatMap_cons, modifierText, Marker.of_kind_eq_some.mpr named]
      rfl

theorem value_head (settings : Settings) (words : settings.NamesAreWords) (kind : Kind)
    (value : String) (spells : Spells settings kind value) (other : kind ≠ .number) :
    ∃ char tail, value.toList = char :: tail ∧ isNumeric char = false := by
  cases spells with
  | number digits filled numeric => exact absurd rfl other
  | function _ known =>
      obtain ⟨filled, letters⟩ := function_name_letters value (words value known)
      cases spelled : value.toList with
      | nil => exact absurd spelled filled
      | cons char tail =>
          exact ⟨char, tail, rfl, alpha_not_numeric char (letters char (by simp [spelled]))⟩
  | single char kind classified =>
      refine ⟨char, [], by simp, ?_⟩
      cases numeric : isNumeric char with
      | false => rfl
      | true =>
          rw [(classify_numeric_iff settings char).mpr numeric] at classified
          cases classified

end Element

namespace Formula

def StartsWithWord (elements : List (Element ι)) (word : List Char) : Prop :=
  ∃ parts opening back, elements = parts ++ opening :: back ∧ opening.value = "(" ∧
    (∀ part ∈ parts, part.IsPlainWordPart) ∧ (plainText parts).toList = word

theorem starts_with_word_nil (element : Element ι) (rest : List (Element ι))
    (parenthesis : element.value = "(") : StartsWithWord (element :: rest) [] := by
  refine ⟨[], element, rest, rfl, parenthesis, ?_, ?_⟩
  · simp
  · simp [plainText]

theorem starts_with_word_cons (element : Element ι) (rest : List (Element ι))
    (plain : element.IsPlainWordPart) (word : List Char) (starts : StartsWithWord rest word) :
    StartsWithWord (element :: rest) (element.value.toList ++ word) := by
  rcases starts with ⟨parts, opening, back, split, parenthesis, plainParts, spelled⟩
  refine ⟨element :: parts, opening, back, ?_, parenthesis, ?_, ?_⟩
  · rw [split]
    rfl
  · intro part member
    rcases List.mem_cons.mp member with same | inside
    · rw [same]
      exact plain
    · exact plainParts part inside
  · simp only [plainText, String.toList_join] at spelled ⊢
    simp [spelled]

theorem no_word_at (word : List Char) (letters : ∀ char ∈ word, char.isAlpha = true)
    (char : Char) (tail : List Char) (notLetter : char.isAlpha = false) (notOpening : char ≠ '(') :
    ¬word ++ ['('] <+: char :: tail := by
  intro written
  cases word with
  | nil => exact notOpening (List.cons_prefix_cons.mp written).1.symm
  | cons first more =>
      have same := (List.cons_prefix_cons.mp written).1
      have letter := letters first List.mem_cons_self
      rw [same, notLetter] at letter
      cases letter

/-- A word goes on behind an element only if the element has no modifiers. -/
theorem word_behind_children (settings : Settings) (last : Prop) (children : List (Element ι))
    (spelled : Element.AllSpelledModifiers settings last children) (tail word : List Char)
    (letters : ∀ char ∈ word, char.isAlpha = true)
    (written : word ++ ['('] <+: children.flatMap Element.modifierText ++ tail) :
    children = [] ∧ word ++ ['('] <+: tail := by
  rcases Element.children_text_head settings last children spelled with
    bare | ⟨marker, behind, marked⟩
  · rw [bare] at written
    exact ⟨bare, written⟩
  · rw [marked] at written
    have notLetter : marker.char.isAlpha = false := by cases marker <;> decide
    have notOpening : marker.char ≠ '(' := by cases marker <;> decide
    exact absurd written (no_word_at word letters marker.char _ notLetter notOpening)

theorem word_at_function (settings : Settings) (words : settings.NamesAreWords)
    (element : Element ι) (rest : List (Element ι)) (stands : element.Stands settings rest)
    (isFunction : element.kind = .function) (known : element.value ∈ settings.functionNames)
    (word : List Char) (letters : ∀ char ∈ word, char.isAlpha = true)
    (written : word ++ ['('] <+: writeChars (element :: rest)) :
    StartsWithWord (element :: rest) word := by
  obtain ⟨bare, opening, back, behind, parenthesis⟩ := stands.function isFunction
  have fits : element.value.toList ++ ['('] <+: writeChars (element :: rest) := by
    rw [write_chars_cons, bare, behind, List.prefix_append_right_inj, write_chars_cons,
      parenthesis]
    simp
  have same := word_before_parenthesis word element.value.toList _ letters
    (function_name_letters element.value (words element.value known)).2 written fits
  have opens : StartsWithWord rest [] := by
    rw [behind]
    exact starts_with_word_nil opening back parenthesis
  have starts := starts_with_word_cons element rest ⟨bare, Or.inr isFunction⟩ [] opens
  rw [List.append_nil] at starts
  rw [same]
  exact starts

/-- A word before a parenthesis in what is written comes from plain letters, with a function at
most as its end, before an element that is the parenthesis. -/
theorem word_written (settings : Settings) (words : settings.NamesAreWords)
    (elements : List (Element ι)) (wellFormed : WellFormed settings elements) (word : List Char)
    (letters : ∀ char ∈ word, char.isAlpha = true)
    (written : word ++ ['('] <+: writeChars elements) : StartsWithWord elements word := by
  induction elements generalizing word with
  | nil =>
      rw [writeChars, List.flatMap_nil, List.prefix_nil] at written
      simp at written
  | cons element rest induction =>
      rcases wellFormed with ⟨stands, others⟩
      have spells := stands.value
      have atFunction := word_at_function settings words element rest stands
      generalize kindIs : element.kind = kind at spells atFunction
      generalize valueIs : element.value = value at spells atFunction
      cases spells with
      | number _ filled numeric =>
          rw [write_chars_cons, valueIs] at written
          cases spelled : value.toList with
          | nil => exact absurd (String.toList_eq_nil_iff.mp spelled) filled
          | cons digit more =>
              rw [spelled] at written
              have isDigit := numeric digit (by simp [spelled])
              have notOpening : digit ≠ '(' := by
                intro opening
                rw [opening] at isDigit
                exact absurd isDigit (by decide)
              exact absurd written
                (no_word_at word letters digit _ (numeric_not_alpha digit isDigit) notOpening)
      | function _ known => exact atFunction rfl known word letters written
      | single char _ classified =>
          rw [write_chars_cons, valueIs, String.toList_ofList] at written
          cases word with
          | nil =>
              have same := (List.cons_prefix_cons.mp written).1
              exact starts_with_word_nil element rest (by rw [valueIs, ← same])
          | cons first more =>
              -- The letter takes the first character of the word, the elements behind it the rest.
              obtain ⟨same, later⟩ := List.cons_prefix_cons.mp written
              subst first
              have moreLetters : ∀ other ∈ more, other.isAlpha = true :=
                fun other member => letters other (List.mem_cons_of_mem _ member)
              rw [classify_alpha settings char (letters char List.mem_cons_self)] at classified
              have isLetter := kindIs.trans (Option.some.inj classified).symm
              obtain ⟨bare, behind⟩ := word_behind_children settings _ element.children
                stands.modifiers _ more moreLetters later
              have starts := starts_with_word_cons element rest ⟨bare, Or.inl isLetter⟩ more
                (induction others more moreLetters behind)
              rw [valueIs, String.toList_ofList] at starts
              exact starts

theorem unnamed_of_stands (settings : Settings) (words : settings.NamesAreWords)
    (element : Element ι) (rest : List (Element ι))
    (wellFormed : WellFormed settings (element :: rest)) (isLetter : element.kind = .letter) :
    settings.functionAt? (writeChars (element :: rest)) = none := by
  rw [function_at_eq_none_iff]
  intro name known written
  obtain ⟨filled, letters⟩ := function_name_letters name (words name known)
  obtain ⟨parts, opening, back, split, parenthesis, plain, spelled⟩ :=
    word_written settings words (element :: rest) wellFormed name.toList letters written
  cases parts with
  | nil => exact absurd spelled.symm filled
  | cons first word =>
      obtain ⟨rfl, behind⟩ := List.cons.inj split
      have unnamed := wellFormed.1.letter isLetter word opening back behind parenthesis plain
      rw [String.toList_inj.mp spelled] at unnamed
      exact unnamed known

theorem number_ends (settings : Settings) (words : settings.NamesAreWords)
    (element : Element ι) (rest : List (Element ι))
    (wellFormed : WellFormed settings (element :: rest)) (isNumber : element.kind = .number)
    (char : Char)
    (head : (element.children.flatMap Element.modifierText ++ writeChars rest).head? = some char) :
    isNumeric char = false := by
  have stands := wellFormed.1
  rcases Element.children_text_head settings _ element.children stands.modifiers with
    bare | ⟨marker, tail, marked⟩
  · rw [bare, List.flatMap_nil, List.nil_append] at head
    cases rest with
    | nil => cases head
    | cons next back =>
        have other := stands.number isNumber bare next back rfl
        obtain ⟨first, tail, spelled, notDigit⟩ :=
          Element.value_head settings words next.kind next.value wellFormed.2.1.value other
        rw [write_chars_cons, spelled] at head
        exact Option.some.inj head ▸ notDigit
  · rw [marked] at head
    obtain rfl : marker.char = char := Option.some.inj head
    cases marker <;> decide

theorem atom_fits (settings : Settings) (words : settings.NamesAreWords)
    (element : Element ι) (rest : List (Element ι))
    (wellFormed : WellFormed settings (element :: rest)) :
    (Token.atom element.kind element.value.toList).Fits settings
      (element.children.flatMap Element.modifierText ++ writeChars rest) := by
  have spells := wellFormed.1.value
  have ends := number_ends settings words element rest wellFormed
  have unnamed := unnamed_of_stands settings words element rest wellFormed
  have function := wellFormed.1.function
  rw [write_chars_cons] at unnamed
  generalize element.kind = kind at spells ends unnamed function ⊢
  generalize element.value = value at spells unnamed ⊢
  cases spells with
  | number _ filled numeric =>
      exact .number _ (fun empty => filled (String.toList_eq_nil_iff.mp empty)) numeric (ends rfl)
  | function _ known =>
      obtain ⟨bare, opening, back, rfl, parenthesis⟩ := function rfl
      apply Token.Fits.function value known
      rw [bare, write_chars_cons, parenthesis]
      rfl
  | single char _ classified =>
      rw [String.toList_ofList] at unnamed ⊢
      exact .single char kind classified unnamed

theorem all_fit_written (settings : Settings) (words : settings.NamesAreWords)
    (elements : List (Element ι)) (wellFormed : WellFormed settings elements) :
    AllFit settings (writtenTokens elements) := by
  induction elements with
  | nil => trivial
  | cons element rest induction =>
      rw [written_tokens_cons]
      constructor
      · rw [List.flatMap_append, Element.modifier_tokens_text, written_tokens_text]
        exact atom_fits settings words element rest wellFormed
      · apply Token.all_fit_modifiers settings (rest = []) element.children _
          wellFormed.1.modifiers (induction wellFormed.2)
        intro final
        rw [final]
        rfl

theorem parse_write_of_well_formed (settings : Settings) (words : settings.NamesAreWords)
    (elements : List (Element ι)) (wellFormed : WellFormed settings elements) :
    parse settings (write elements) = Element.shapes elements := by
  have scanned := (tokens_eq_iff settings words (writeChars elements) (writtenTokens elements)).mpr
    ⟨written_tokens_text elements, all_fit_written settings words elements wellFormed⟩
  rw [parse, write, String.toList_ofList, parseChars, scanned]
  exact Token.assemble_written settings elements wellFormed

theorem same_parse_iff (settings : Settings) (drawn : Nat) (text : String)
    (elements : List (Element ι)) :
    Element.allSame (parseNumbered settings drawn text) elements = true ↔
      parse settings text = Element.shapes elements := by
  rw [Element.all_same_iff, parse_numbered_shapes, Element.shapes_self]

/-- Exactly the well-formed lists are read back from what is written for them. -/
theorem same_parse_write_iff (settings : Settings) (words : settings.NamesAreWords)
    (drawn : Nat) (elements : List (Element Id)) :
    Element.allSame (parseNumbered settings drawn (write elements)) elements = true ↔
      WellFormed settings (Element.shapes elements) := by
  rw [same_parse_iff]
  constructor
  · intro same
    rw [← same]
    exact parse_well_formed settings words (write elements)
  · intro wellFormed
    rw [← write_shapes, parse_write_of_well_formed settings words _ wellFormed,
      Element.shapes_shapes]

/-- A letter and a function that spell the name of another function are not read back. -/
theorem same_parse_write_iff_split_name :
    ({ functionNames := ["sin", "in"] } : Settings).NamesAreWords ∧
      Element.allSame
        (parseNumbered { functionNames := ["sin", "in"] } 0
          (write ([⟨.letter, "s", [], "fe-1"⟩, ⟨.function, "in", [], "fe-2"⟩,
            ⟨.bracket, "(", [], "fe-3"⟩] : List (Element Id))))
        ([⟨.letter, "s", [], "fe-1"⟩, ⟨.function, "in", [], "fe-2"⟩,
          ⟨.bracket, "(", [], "fe-3"⟩] : List (Element Id)) ≠ true := by
  have words : ({ functionNames := ["sin", "in"] } : Settings).NamesAreWords := by
    unfold Settings.NamesAreWords
    decide
  apply And.intro words
  rw [ne_eq, same_parse_write_iff _ words]
  intro wellFormed
  exact wellFormed.1.letter rfl [⟨.function, "in", [], ()⟩] ⟨.bracket, "(", [], ()⟩ [] rfl rfl
    (by simp [Element.IsPlainWordPart, Element.shape, Element.shapes]) (by decide)

end Formula

end InlineFormula
