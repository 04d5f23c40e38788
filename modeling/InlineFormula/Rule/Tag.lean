import InlineFormula.Datum
import InlineFormula.Rule.RuleType
import InlineFormula.Text.Alphanumeric

/-!
Recognition of rule tags. A tag names a type when it is spelled exactly, or when its folded form
is the key of the type. Folding lowers letters and keeps only alphanumeric characters, so case
and separators do not count.
-/

namespace InlineFormula.RuleType

/-- The Kelvin sign and the dotted capital I are the two characters beyond ASCII whose lower-case
form holds an ASCII letter. -/
def foldChar (char : Char) : List Char :=
  if char = '\u212a' then ['k']
  else if char = '\u0130' then ['i']
  else if Text.isAlphanumeric char then [char.toLower]
  else []

def foldTag (tag : List Char) : List Char := tag.flatMap foldChar

def ofExactTag? (tag : String) : Option RuleType := all.find? fun type => type.tag == tag

def ofFoldedTag? (tag : String) : Option RuleType :=
  all.find? fun type => type.key == foldTag tag.toList

def ofTag? (tag : String) : Option RuleType := ofExactTag? tag <|> ofFoldedTag? tag

/-- Only a text can be the tag of a type. -/
def ofDatum? : Datum → Option RuleType
  | .text tag => ofTag? tag
  | _ => none

theorem of_exact_tag_tag (type : RuleType) : ofExactTag? type.tag = some type := by
  cases type with
  | check check => cases check <;> decide
  | custom => decide

theorem of_tag_tag (type : RuleType) : ofTag? type.tag = some type := by
  simp [ofTag?, of_exact_tag_tag]

end InlineFormula.RuleType
