import InlineFormula.Rule.Tag
import Mathlib.Data.List.Nodup
import Mathlib.Logic.Relation

/-!
Spellings of rule tags. A tag names a type if it is the tag of the type, or if the alphanumeric
characters of its small letters are the name of the type without underscores. It does not matter
how letters beyond ASCII are made small, as none but the Kelvin sign and the dotted capital I have
a small form with an ASCII character in it. So the case of ASCII letters and ASCII characters other
than letters and digits do not count, and no tag names two types.
-/

set_option autoImplicit false

namespace InlineFormula

namespace Text

/-- A way of making the letters of a text small. What a character becomes may be several
characters, and may depend on what stands around it. -/
structure Lowering where
  lowered (before : List Char) (char : Char) (behind : List Char) : List Char
  ascii : ∀ before char behind, char.toNat < 128 → lowered before char behind = [char.toLower]
  kelvin : ∀ before behind, lowered before '\u212a' behind = ['k']
  dotted : ∀ before behind, lowered before '\u0130' behind = ['i', '\u0307']
  beyond : ∀ before char behind, 128 ≤ char.toNat → char ≠ '\u212a' → char ≠ '\u0130' →
    ∀ small ∈ lowered before char behind, 128 ≤ small.toNat
  alphanumeric : ∀ before char behind,
    (lowered before char behind).any isAlphanumeric = isAlphanumeric char

namespace Lowering

def lowerFrom (lowering : Lowering) (before : List Char) : List Char → List Char
  | [] => []
  | char :: behind =>
      lowering.lowered before char behind ++ lowering.lowerFrom (before ++ [char]) behind

def key (lowering : Lowering) (text : List Char) : List Char :=
  (lowering.lowerFrom [] text).filter isAlphanumeric

end Lowering

def Foreign (text : List Char) : Prop := ∃ char ∈ text, 128 ≤ char.toNat

def isAscii (text : List Char) : Bool := text.all fun char => char.toNat < 128

theorem is_ascii_iff (text : List Char) :
    isAscii text = true ↔ ∀ char ∈ text, char.toNat < 128 := by
  simp only [isAscii, List.all_eq_true, decide_eq_true_eq]

theorem foreign_append (front back : List Char) :
    Foreign (front ++ back) ↔ Foreign front ∨ Foreign back := by
  simp only [Foreign, List.mem_append, or_and_right, exists_or]

theorem alphanumeric_ascii (char : Char) (ascii : char.toNat < 128) :
    isAlphanumeric char = char.isAlphanum := by
  rw [isAlphanumeric, if_pos ascii]

theorem ascii_of_alphanum (char : Char) (counts : char.isAlphanum = true) : char.toNat < 128 := by
  have below (last : Char) (bound : char.val ≤ last.val) (ascii : last.toNat < 128) :
      char.toNat < 128 := Nat.lt_of_le_of_lt (UInt32.le_iff_toNat_le.mp bound) ascii
  delta Char.isAlphanum Char.isAlpha Char.isUpper Char.isLower Char.isDigit at counts
  simp only [Bool.or_eq_true, Bool.and_eq_true, decide_eq_true_eq] at counts
  rcases counts with (upper | lower) | digit
  · exact below 'Z' upper.2 (by decide)
  · exact below 'z' lower.2 (by decide)
  · exact below '9' digit.2 (by decide)

theorem ne_of_ascii (char other : Char) (ascii : char.toNat < 128) (beyond : 128 ≤ other.toNat) :
    char ≠ other := by
  intro same
  rw [same] at ascii
  omega

/-- Only letters of ASCII have a capital form here. -/
theorem lower_beyond (char : Char) (beyond : 128 ≤ char.toNat) : char.toLower = char := by
  apply dif_neg
  rintro ⟨-, bound⟩
  have ascii : char.toNat ≤ 'Z'.toNat := UInt32.le_iff_toNat_le.mp bound
  exact absurd (Nat.le_trans beyond ascii) (by decide)

theorem alphanumeric_lower (char : Char) : isAlphanumeric char.toLower = isAlphanumeric char := by
  by_cases ascii : char.toNat < 128
  · have small : ∀ code < 128, isAlphanumeric (Char.ofNat code).toLower =
        isAlphanumeric (Char.ofNat code) := by decide +kernel
    have checked := small char.toNat ascii
    rw [Char.ofNat_toNat] at checked
    exact checked
  · rw [lower_beyond char (Nat.le_of_not_lt ascii)]

/-- The capital sigma has a small form of its own at the end of a text. -/
def Lowering.withFinalSigma : Lowering where
  lowered _ char behind :=
    if char = '\u212a' then ['k']
    else if char = '\u0130' then ['i', '\u0307']
    else if char = '\u03a3' then [if behind.isEmpty then '\u03c2' else '\u03c3']
    else [char.toLower]
  ascii before char behind ascii := by
    rw [if_neg (ne_of_ascii char _ ascii (by decide)),
      if_neg (ne_of_ascii char _ ascii (by decide)),
      if_neg (ne_of_ascii char _ ascii (by decide))]
  kelvin _ _ := rfl
  dotted _ _ := rfl
  beyond before char behind beyond kelvin dotted := by
    rw [if_neg kelvin, if_neg dotted]
    split
    · rw [List.forall_mem_singleton]
      split <;> decide
    · rw [List.forall_mem_singleton, lower_beyond char beyond]
      exact beyond
  alphanumeric before char behind := by
    split
    case isTrue kelvin =>
      rw [kelvin]
      decide +kernel
    split
    case isTrue dotted =>
      rw [dotted]
      decide +kernel
    split
    case isTrue sigma =>
      rw [sigma]
      split <;> decide +kernel
    · rw [List.any_cons, List.any_nil, Bool.or_false]
      exact alphanumeric_lower char

end Text

namespace RuleType

open Text (Foreign Lowering isAlphanumeric)

theorem fold_char_ascii (char : Char) (ascii : char.toNat < 128) :
    foldChar char = if char.isAlphanum then [char.toLower] else [] := by
  rw [foldChar, if_neg (Text.ne_of_ascii char _ ascii (by decide)),
    if_neg (Text.ne_of_ascii char _ ascii (by decide)), Text.alphanumeric_ascii char ascii]

/-- Of each character either the same is kept however it is made small, or both times something
foreign is. -/
theorem lowered_fold_char (lowering : Lowering) (before : List Char) (char : Char)
    (behind : List Char) :
    (lowering.lowered before char behind).filter isAlphanumeric = foldChar char ∨
      Foreign ((lowering.lowered before char behind).filter isAlphanumeric) ∧
        Foreign (foldChar char) := by
  have shown := lowering.alphanumeric before char behind
  by_cases ascii : char.toNat < 128
  · left
    rw [lowering.ascii before char behind ascii] at shown ⊢
    rw [List.any_cons, List.any_nil, Bool.or_false] at shown
    rw [fold_char_ascii char ascii, ← Text.alphanumeric_ascii char ascii, List.filter_cons, shown,
      List.filter_nil]
  by_cases kelvin : char = '\u212a'
  · left
    rw [kelvin, lowering.kelvin]
    decide +kernel
  by_cases dotted : char = '\u0130'
  · left
    rw [dotted, lowering.dotted]
    decide +kernel
  have folded : foldChar char = if isAlphanumeric char then [char.toLower] else [] := by
    rw [foldChar, if_neg kelvin, if_neg dotted]
  rw [folded]
  by_cases kept : isAlphanumeric char = true
  · right
    rw [kept] at shown
    rw [if_pos kept]
    constructor
    · rcases List.any_eq_true.mp shown with ⟨small, member, alphanumeric⟩
      refine ⟨small, List.mem_filter.mpr ⟨member, alphanumeric⟩, ?_⟩
      exact lowering.beyond before char behind (Nat.le_of_not_lt ascii) kelvin dotted small member
    · refine ⟨char.toLower, List.mem_singleton_self _, ?_⟩
      rw [Text.lower_beyond char (Nat.le_of_not_lt ascii)]
      exact Nat.le_of_not_lt ascii
  · left
    rw [Bool.not_eq_true] at kept
    rw [kept, List.any_eq_false] at shown
    rw [kept, if_neg Bool.false_ne_true]
    exact List.filter_eq_nil_iff.mpr shown

theorem lowered_fold_tag (lowering : Lowering) (before tag : List Char) :
    (lowering.lowerFrom before tag).filter isAlphanumeric = foldTag tag ∨
      Foreign ((lowering.lowerFrom before tag).filter isAlphanumeric) ∧
        Foreign (foldTag tag) := by
  induction tag generalizing before with
  | nil => exact Or.inl rfl
  | cons char behind induction =>
      rw [Lowering.lowerFrom, List.filter_append, foldTag, List.flatMap_cons, ← foldTag,
        Text.foreign_append, Text.foreign_append]
      rcases lowered_fold_char lowering before char behind with same | ⟨left, right⟩
      · rcases induction (before ++ [char]) with others | ⟨left, right⟩
        · left
          rw [same, others]
        · exact Or.inr ⟨Or.inr left, Or.inr right⟩
      · exact Or.inr ⟨Or.inl left, Or.inl right⟩

theorem lowering_key_eq_iff (lowering : Lowering) (tag word : List Char) (ascii : ¬Foreign word) :
    lowering.key tag = word ↔ foldTag tag = word := by
  rcases lowered_fold_tag lowering [] tag with same | ⟨left, right⟩
  · rw [Lowering.key, same]
  · constructor
    · intro spelled
      rw [Lowering.key] at spelled
      rw [spelled] at left
      exact absurd left ascii
    · intro spelled
      rw [spelled] at right
      exact absurd right ascii

def name : RuleType → String
  | check .bracketsMatch => "BRACKETS_MATCH"
  | check .operatorsSurrounded => "OPERATORS_SURROUNDED"
  | check .nonEmpty => "NON_EMPTY"
  | check .hasEquals => "HAS_EQUALS"
  | check .noConsecutiveOperands => "NO_CONSECUTIVE_OPERANDS"
  | custom => "CUSTOM"

def bareName (type : RuleType) : List Char :=
  (type.name.toList.filter fun char => char != '_').map Char.toLower

theorem bare_name_eq_key (type : RuleType) : type.bareName = type.key := by
  cases type with
  | check check => cases check <;> decide
  | custom => decide

theorem key_injective : Function.Injective key := by
  have distinct : (all.map key).Nodup := by decide +kernel
  intro left right same
  exact List.inj_on_of_nodup_map distinct (mem_all left) (mem_all right) same

theorem key_ascii (type : RuleType) : ¬Foreign type.key := by
  have plain : Text.isAscii type.key = true := by
    cases type with
    | check check => cases check <;> decide
    | custom => decide
  intro foreign
  rcases foreign with ⟨char, member, beyond⟩
  have ascii := (Text.is_ascii_iff type.key).mp plain char member
  omega

theorem fold_tag_tag (type : RuleType) : foldTag type.tag.toList = type.key := by
  have folded : ∀ other ∈ all, foldTag other.tag.toList = other.key := by decide +kernel
  exact folded type (mem_all type)

theorem of_folded_tag_eq_some_iff (tag : String) (type : RuleType) :
    ofFoldedTag? tag = some type ↔ foldTag tag.toList = type.key := by
  constructor
  · intro found
    rw [ofFoldedTag?] at found
    have keys := List.find?_some found
    exact (beq_iff_eq.mp keys).symm
  · intro folded
    have present : (ofFoldedTag? tag).isSome = true := by
      rw [ofFoldedTag?, List.find?_isSome]
      exact ⟨type, mem_all type, beq_iff_eq.mpr folded.symm⟩
    rcases Option.isSome_iff_exists.mp present with ⟨other, found⟩
    rw [found]
    rw [ofFoldedTag?] at found
    have keys := List.find?_some found
    rw [key_injective ((beq_iff_eq.mp keys).trans folded)]

theorem of_tag_eq_some_iff (tag : String) (type : RuleType) :
    ofTag? tag = some type ↔ foldTag tag.toList = type.key := by
  rw [ofTag?, ← of_folded_tag_eq_some_iff]
  cases found : ofExactTag? tag with
  | none => rfl
  | some other =>
      rw [ofExactTag?] at found
      have spelled := List.find?_some found
      have folded : ofFoldedTag? tag = some other := by
        rw [of_folded_tag_eq_some_iff, ← beq_iff_eq.mp spelled]
        exact fold_tag_tag other
      rw [folded]
      rfl

/-- What it takes for a tag to name a type: to be its tag, or to spell its name when all
that is left of the tag is the alphanumeric characters of its small letters. -/
def NamedBy (lowering : Lowering) (type : RuleType) (tag : String) : Prop :=
  tag = type.tag ∨ lowering.key tag.toList = type.bareName

theorem of_tag_eq_some_iff_named (lowering : Lowering) (tag : String) (type : RuleType) :
    ofTag? tag = some type ↔ type.NamedBy lowering tag := by
  rw [of_tag_eq_some_iff, NamedBy, bare_name_eq_key,
    lowering_key_eq_iff lowering tag.toList type.key (key_ascii type)]
  constructor
  · intro folded
    exact Or.inr folded
  · intro named
    rcases named with rfl | folded
    · exact fold_tag_tag type
    · exact folded

/-- Characters that do not count in a tag: those of ASCII that are no letters or digits. -/
def isSeparator (char : Char) : Bool := char.toNat < 128 && !char.isAlphanum

/-- One change to the spelling of a tag: a separator comes or goes, or an ASCII letter changes its
case. -/
inductive Respelling : List Char → List Char → Prop where
  | inserted (front back : List Char) (separator : Char)
      (separates : isSeparator separator = true) :
      Respelling (front ++ back) (front ++ separator :: back)
  | deleted (front back : List Char) (separator : Char)
      (separates : isSeparator separator = true) :
      Respelling (front ++ separator :: back) (front ++ back)
  | recased (front back : List Char) (letter other : Char) (alphabetic : letter.isAlpha = true)
      (recases : other = letter.toLower ∨ other = letter.toUpper) :
      Respelling (front ++ letter :: back) (front ++ other :: back)

theorem fold_char_separator (separator : Char) (separates : isSeparator separator = true) :
    foldChar separator = [] := by
  rw [isSeparator, Bool.and_eq_true, decide_eq_true_eq, Bool.not_eq_true'] at separates
  rw [fold_char_ascii separator separates.1, separates.2, if_neg Bool.false_ne_true]

theorem fold_char_letter (letter : Char) (alphabetic : letter.isAlpha = true) :
    foldChar letter = [letter.toLower] := by
  have counts : letter.isAlphanum = true := by rw [Char.isAlphanum, alphabetic, Bool.true_or]
  rw [fold_char_ascii letter (Text.ascii_of_alphanum letter counts), counts, if_pos rfl]

theorem recased_letter (letter other : Char) (alphabetic : letter.isAlpha = true)
    (recases : other = letter.toLower ∨ other = letter.toUpper) :
    other.isAlpha = true ∧ other.toLower = letter.toLower := by
  have small : ∀ code < 128, (Char.ofNat code).toLower.isAlpha = (Char.ofNat code).isAlpha ∧
      (Char.ofNat code).toLower.toLower = (Char.ofNat code).toLower := by decide +kernel
  have capital : ∀ code < 128, (Char.ofNat code).toUpper.isAlpha = (Char.ofNat code).isAlpha ∧
      (Char.ofNat code).toUpper.toLower = (Char.ofNat code).toLower := by decide +kernel
  have ascii := Text.ascii_of_alphanum letter (by rw [Char.isAlphanum, alphabetic, Bool.true_or])
  rw [← Char.ofNat_toNat letter] at recases alphabetic ⊢
  rcases recases with rfl | rfl
  · exact ⟨(small _ ascii).1.trans alphabetic, (small _ ascii).2⟩
  · exact ⟨(capital _ ascii).1.trans alphabetic, (capital _ ascii).2⟩

theorem fold_char_recased (letter other : Char) (alphabetic : letter.isAlpha = true)
    (recases : other = letter.toLower ∨ other = letter.toUpper) :
    foldChar other = foldChar letter := by
  have recased := recased_letter letter other alphabetic recases
  rw [fold_char_letter letter alphabetic, fold_char_letter other recased.1, recased.2]

theorem fold_tag_step (tag other : List Char) (step : Respelling tag other) :
    foldTag tag = foldTag other := by
  cases step with
  | inserted front back separator separates =>
      simp only [foldTag, List.flatMap_append, List.flatMap_cons,
        fold_char_separator separator separates, List.nil_append]
  | deleted front back separator separates =>
      simp only [foldTag, List.flatMap_append, List.flatMap_cons,
        fold_char_separator separator separates, List.nil_append]
  | recased front back letter other alphabetic recases =>
      simp only [foldTag, List.flatMap_append, List.flatMap_cons,
        fold_char_recased letter other alphabetic recases]

theorem fold_tag_respelled (tag other : List Char)
    (respelled : Relation.ReflTransGen Respelling tag other) : foldTag tag = foldTag other := by
  induction respelled with
  | refl => rfl
  | tail earlier step induction => exact induction.trans (fold_tag_step _ _ step)

theorem fold_tag_ascii (tag : List Char) (ascii : ∀ char ∈ tag, char.toNat < 128) :
    foldTag tag = (tag.filter Char.isAlphanum).map Char.toLower := by
  induction tag with
  | nil => rfl
  | cons char rest induction =>
      rw [List.forall_mem_cons] at ascii
      rw [foldTag, List.flatMap_cons, ← foldTag, induction ascii.2, fold_char_ascii char ascii.1,
        List.filter_cons]
      split
      · rfl
      · rfl

theorem of_tag_congr (tag other : String) (same : foldTag tag.toList = foldTag other.toList) :
    ofTag? tag = ofTag? other := by
  apply Option.ext
  intro type
  rw [of_tag_eq_some_iff, of_tag_eq_some_iff, same]

/-- However letters are made small, a tag is resolved to the one type that it names, if any. Case
and separators of ASCII do not change what it names, and a tag of ASCII characters names a type
exactly if nothing else tells it from the type's name. Each type is named by its own tag. -/
theorem tags_resolve_unambiguously (lowering : Lowering) :
    (∀ (tag : String) (type : RuleType), ofTag? tag = some type ↔ type.NamedBy lowering tag) ∧
    (∀ (tag : String) (left right : RuleType),
      left.NamedBy lowering tag → right.NamedBy lowering tag → left = right) ∧
    (∀ tag other : String, Relation.ReflTransGen Respelling tag.toList other.toList →
      ofTag? tag = ofTag? other) ∧
    (∀ tag : String, (∀ char ∈ tag.toList, char.toNat < 128) → ∀ type : RuleType,
      (ofTag? tag = some type ↔
        (tag.toList.filter Char.isAlphanum).map Char.toLower = type.bareName)) ∧
    ∀ type : RuleType, ofTag? type.tag = some type := by
  refine ⟨of_tag_eq_some_iff_named lowering, ?_, ?_, ?_, of_tag_tag⟩
  · intro tag left right leftNamed rightNamed
    have leftFound := (of_tag_eq_some_iff_named lowering tag left).mpr leftNamed
    have rightFound := (of_tag_eq_some_iff_named lowering tag right).mpr rightNamed
    rw [leftFound] at rightFound
    exact Option.some.inj rightFound
  · intro tag other respelled
    exact of_tag_congr tag other (fold_tag_respelled tag.toList other.toList respelled)
  · intro tag ascii type
    rw [of_tag_eq_some_iff, fold_tag_ascii tag.toList ascii, bare_name_eq_key]

/-- The tag of the check of brackets with the Kelvin sign for its letter k, and a hyphen that
makes way for a space and a capital. -/
theorem tags_resolve_unambiguously_kelvin :
    (check .bracketsMatch).NamedBy .withFinalSigma "brac\u212aets-match" ∧
      ofTag? "brac\u212aets-match" = some (check .bracketsMatch) ∧
      Relation.ReflTransGen Respelling
        "brac\u212aets-match".toList "brac\u212aets Match".toList ∧
      ofTag? "brac\u212aets-match" = ofTag? "brac\u212aets Match" ∧
      (∀ char ∈ "?NonEmpty".toList, char.toNat < 128) ∧
      ofTag? "?NonEmpty" = some (check .nonEmpty) := by
  have laws := tags_resolve_unambiguously .withFinalSigma
  have named : (check .bracketsMatch).NamedBy .withFinalSigma "brac\u212aets-match" := by
    right
    decide +kernel
  have respelled : Relation.ReflTransGen Respelling
      "brac\u212aets-match".toList "brac\u212aets Match".toList := by
    refine .head (.deleted "brac\u212aets".toList "match".toList '-' (by decide)) ?_
    refine .head (.inserted "brac\u212aets".toList "match".toList ' ' (by decide)) ?_
    exact .single (.recased "brac\u212aets ".toList "atch".toList 'm' 'M' (by decide)
      (.inr (by decide)))
  have ascii : ∀ char ∈ "?NonEmpty".toList, char.toNat < 128 :=
    (Text.is_ascii_iff "?NonEmpty".toList).mp (by decide)
  have spelled : ("?NonEmpty".toList.filter Char.isAlphanum).map Char.toLower =
      (check .nonEmpty).bareName := by decide
  exact ⟨named, (laws.1 _ _).mpr named, respelled, laws.2.2.1 _ _ respelled, ascii,
    (laws.2.2.2.1 _ ascii _).mpr spelled⟩

end RuleType

end InlineFormula
