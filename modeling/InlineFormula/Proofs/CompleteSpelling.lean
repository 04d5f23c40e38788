import InlineFormula.Proofs.Braces

/-!
Completeness of the spellings that are written. Behind a marker a scan finds some content and the
position at which the text goes on. Some texts show a content in front of what follows and others
do not; if any does, the text written for the content does.
-/

set_option autoImplicit false

namespace InlineFormula.Spelling

theorem drop_scan (text : List Char) : text.drop (scan text).2 = (read text).2 := by
  have whole := read_text text
  have position : (scan text).2 = (read text).1.text.length := by
    have sizes := congrArg List.length whole
    rw [List.length_append] at sizes
    show text.length - (read text).2.length = _
    omega
  calc text.drop (scan text).2
      = ((read text).1.text ++ (read text).2).drop (read text).1.text.length := by
        rw [whole, position]
    _ = (read text).2 := List.drop_left

theorem scan_append_eq_iff (spelled after content : List Char) :
    scan (spelled ++ after) = (content, spelled.length) ↔
      ∃ spelling : Spelling,
        spelling.text = spelled ∧ spelling.content = content ∧ spelling.Fits after := by
  constructor
  · intro found
    have shown : (read (spelled ++ after)).1.content = content := congrArg Prod.fst found
    have position : (scan (spelled ++ after)).2 = spelled.length := congrArg Prod.snd found
    have behind : (read (spelled ++ after)).2 = after := by
      rw [← drop_scan, position]
      exact List.drop_left
    have spells := (read_eq_iff (spelled ++ after) after (read (spelled ++ after)).1).mp
      (Prod.ext rfl behind)
    exact ⟨_, (List.append_cancel_right spells.1).symm, shown, spells.2⟩
  · intro spells
    rcases spells with ⟨spelling, rfl, rfl, fits⟩
    rw [scan, read_of_fits spelling after fits, List.length_append, Nat.add_sub_cancel]

theorem of_content_fits_of_scan (spelled after content : List Char)
    (found : scan (spelled ++ after) = (content, spelled.length)) :
    (ofContent content).Fits after := by
  rcases (scan_append_eq_iff spelled after content).mp found with ⟨spelling, -, shown, fits⟩
  rw [← shown]
  exact of_content_fits spelling after fits

theorem scan_of_content (content after : List Char) (fits : (ofContent content).Fits after) :
    scan ((ofContent content).text ++ after) = (content, (ofContent content).text.length) := by
  apply (scan_append_eq_iff _ after content).mpr
  exact ⟨ofContent content, rfl, of_content_content content, fits⟩

/-- Whatever stands behind a content, if it can be read there from any text at all, then it is read
from the text written for it. That is so for a lone closing brace and for balanced content, and at
the end of a text also for content that leaves groups open. -/
theorem written_spelling_complete (content after : List Char) :
    ((∃ spelled : List Char, scan (spelled ++ after) = (content, spelled.length)) ↔
      scan ((ofContent content).text ++ after) = (content, (ofContent content).text.length)) ∧
    ((∃ spelled : List Char, scan (spelled ++ after) = (content, spelled.length)) ↔
      content = ['}'] ∨ Balanced content ∨
        NeverOverclosed 0 content ∧ content.count '}' < content.count '{' ∧ after = []) := by
  constructor
  · constructor
    · intro readable
      rcases readable with ⟨spelled, found⟩
      exact scan_of_content content after (of_content_fits_of_scan spelled after content found)
    · intro found
      exact ⟨_, found⟩
  · rw [← of_content_fits_iff]
    constructor
    · intro readable
      rcases readable with ⟨spelled, found⟩
      exact of_content_fits_of_scan spelled after content found
    · intro fits
      exact ⟨_, scan_of_content content after fits⟩

end InlineFormula.Spelling
