import InlineFormula.Element.Draft
import Mathlib.Data.List.Nodup
import Mathlib.Data.List.Perm.Subperm

/-!
Identifiers drawn. Draws give one identifier each and never the same one; reading, copying and
building from drafts without identifiers draw as many as there are elements, in an order that is
told here.
-/

set_option autoImplicit false

namespace InlineFormula

namespace Id

theorem of_nat_injective : Function.Injective ofNat := by
  intro left right same
  have spelled : ("fe-" ++ toString left).toList = ("fe-" ++ toString right).toList :=
    congrArg String.toList same
  rw [String.toList_append, String.toList_append] at spelled
  have digits := congrArg (fun shown => Nat.ofDigitChars 10 shown 0)
    (List.append_cancel_left spelled)
  simpa [Nat.toString_eq_ofList_toDigits] using digits

def draws (first count : Nat) : List Id := (List.range' (first + 1) count).map ofNat

theorem draws_append (first front back : Nat) :
    draws first front ++ draws (first + front) back = draws first (front + back) := by
  have numbers : List.range' (first + 1) front ++ List.range' (first + front + 1) back =
      List.range' (first + 1) (front + back) := by
    rw [Nat.add_right_comm]
    exact List.range'_append_1
  rw [draws, draws, draws, ← List.map_append, numbers]

theorem draws_one (first : Nat) : draws first 1 = [ofNat (first + 1)] := rfl

structure DrawnBetween (first last : Nat) (ids : List Id) : Prop where
  distinct : ids.Nodup
  drawn : ∀ id ∈ ids, ∃ number, first < number ∧ number ≤ last ∧ id = ofNat number

theorem draws_between (first count : Nat) :
    DrawnBetween first (first + count) (draws first count) := by
  constructor
  · rw [draws]
    exact (List.nodup_map_iff of_nat_injective).mpr List.nodup_range'
  · intro id member
    obtain ⟨number, listed, rfl⟩ := List.mem_map.mp member
    have bounds := List.mem_range'_1.mp listed
    exact ⟨number, by omega, by omega, rfl⟩

namespace DrawnBetween

variable {first last : Nat} {ids : List Id}

theorem nil (first last : Nat) : DrawnBetween first last [] :=
  ⟨List.nodup_nil, by simp⟩

theorem widen (drawn : DrawnBetween first last ids) {earlier later : Nat}
    (before : earlier ≤ first) (after : last ≤ later) : DrawnBetween earlier later ids := by
  refine ⟨drawn.distinct, ?_⟩
  intro id member
  obtain ⟨number, above, below, rfl⟩ := drawn.drawn id member
  exact ⟨number, by omega, by omega, rfl⟩

theorem subperm (drawn : DrawnBetween first last ids) {held : List Id}
    (among : held.Subperm ids) : DrawnBetween first last held := by
  refine ⟨?_, fun id member => drawn.drawn id (among.subset member)⟩
  obtain ⟨same, permuted, within⟩ := among
  exact permuted.nodup_iff.mp (drawn.distinct.sublist within)

/-- Later draws never repeat what was drawn before. -/
theorem append (drawn : DrawnBetween first last ids) {final : Nat} {others : List Id}
    (later : DrawnBetween last final others) (ordered : first ≤ last) (grows : last ≤ final) :
    DrawnBetween first final (ids ++ others) := by
  constructor
  · refine List.nodup_append.mpr ⟨drawn.distinct, later.distinct, ?_⟩
    rintro id member other among rfl
    obtain ⟨number, -, below, rfl⟩ := drawn.drawn id member
    obtain ⟨again, above, -, same⟩ := later.drawn _ among
    have := of_nat_injective same
    omega
  · intro id member
    rcases List.mem_append.mp member with early | late
    · exact (drawn.widen (Nat.le_refl _) grows).drawn id early
    · exact (later.widen ordered (Nat.le_refl _)).drawn id late

end DrawnBetween

end Id

namespace Element

variable {ι : Type}

mutual
/-- Both orders list the same identifiers. -/
theorem preorder_perm_postorder : (element : Element ι) →
    element.preorderIds.Perm element.postorderIds
  | ⟨_, _, children, id⟩ => by
      rw [preorderIds, postorderIds]
      exact ((all_preorder_perm_postorder children).cons id).trans
        (List.perm_append_singleton id _).symm

theorem all_preorder_perm_postorder : (elements : List (Element ι)) →
    (allPreorderIds elements).Perm (allPostorderIds elements)
  | [] => .nil
  | element :: rest => by
      rw [allPreorderIds, allPostorderIds]
      exact (preorder_perm_postorder element).append (all_preorder_perm_postorder rest)
end

mutual
theorem numbered_ids : (drawn : Nat) → (element : Element ι) →
    (element.numbered drawn).preorderIds = Id.draws drawn element.size
  | drawn, ⟨_, _, children, _⟩ => by
      rw [numbered, preorderIds, all_numbered_ids, size, Nat.add_comm (totalSize children),
        ← Id.draws_append, Id.draws_one]
      rfl

theorem all_numbered_ids : (drawn : Nat) → (elements : List (Element ι)) →
    allPreorderIds (allNumbered drawn elements) = Id.draws drawn (totalSize elements)
  | _, [] => rfl
  | drawn, element :: rest => by
      rw [allNumbered, allPreorderIds, numbered_ids, all_numbered_ids, totalSize, Id.draws_append]
end

mutual
theorem copied_ids : (drawn : Nat) → (element : Element ι) →
    (element.copied drawn).postorderIds = Id.draws drawn element.size
  | drawn, ⟨_, _, children, _⟩ => by
      rw [copied, postorderIds, all_copied_ids, size, ← Id.draws_append, Id.draws_one]

theorem all_copied_ids : (drawn : Nat) → (elements : List (Element ι)) →
    allPostorderIds (allCopied drawn elements) = Id.draws drawn (totalSize elements)
  | _, [] => rfl
  | drawn, element :: rest => by
      rw [allCopied, allPostorderIds, copied_ids, all_copied_ids, totalSize, Id.draws_append]
end

mutual
theorem numbered_size : (drawn : Nat) → (element : Element ι) →
    (element.numbered drawn).size = element.size
  | drawn, ⟨_, _, children, _⟩ => by rw [numbered, size, all_numbered_size, size]

theorem all_numbered_size : (drawn : Nat) → (elements : List (Element ι)) →
    totalSize (allNumbered drawn elements) = totalSize elements
  | _, [] => rfl
  | drawn, element :: rest => by
      rw [allNumbered, totalSize, numbered_size, all_numbered_size, totalSize]
end

theorem all_numbered_between (drawn : Nat) (elements : List (Element ι)) :
    Id.DrawnBetween drawn (drawn + totalSize elements)
      (allPreorderIds (allNumbered drawn elements)) := by
  rw [all_numbered_ids]
  exact Id.draws_between drawn _

theorem all_copied_between (drawn : Nat) (elements : List (Element ι)) :
    Id.DrawnBetween drawn (drawn + totalSize elements)
      (allPreorderIds (allCopied drawn elements)) := by
  have drawnInOrder := Id.draws_between drawn (totalSize elements)
  rw [← all_copied_ids] at drawnInOrder
  exact drawnInOrder.subperm (all_preorder_perm_postorder _).subperm

end Element

namespace Draft

mutual
def unnamed : Draft → Bool
  | ⟨_, _, children, id⟩ => id.isNone && allUnnamed children

def allUnnamed : List Draft → Bool
  | [] => true
  | draft :: rest => draft.unnamed && allUnnamed rest
end

mutual
theorem build_ids : (drawn : Nat) → (draft : Draft) → draft.unnamed = true →
    (element : Element Id) → (last : Nat) → draft.build drawn = (.ok element, last) →
    last = drawn + element.size ∧ element.postorderIds = Id.draws drawn element.size
  | drawn, ⟨kind, value, children, id⟩, plain, element, last, built => by
      rw [unnamed, Bool.and_eq_true, Option.isNone_iff_eq_none] at plain
      obtain ⟨rfl, below⟩ := plain
      rw [build] at built
      split at built
      case h_1 => cases built
      case h_2 elements later builtAll =>
        obtain ⟨rfl, ids⟩ := build_all_ids drawn children below elements later builtAll
        cases named : Kind.ofDatum kind with
        | error fault =>
            rw [named] at built
            cases built
        | ok known =>
            rw [named] at built
            cases built
            rw [Element.size, Element.postorderIds, ids, ← Id.draws_append, Id.draws_one]
            exact ⟨rfl, rfl⟩

theorem build_all_ids : (drawn : Nat) → (drafts : List Draft) → allUnnamed drafts = true →
    (elements : List (Element Id)) → (last : Nat) →
    buildAll drawn drafts = (.ok elements, last) →
    last = drawn + Element.totalSize elements ∧
      Element.allPostorderIds elements = Id.draws drawn (Element.totalSize elements)
  | drawn, [], _, elements, last, built => by
      cases built
      exact ⟨rfl, rfl⟩
  | drawn, draft :: rest, plain, elements, last, built => by
      rw [allUnnamed, Bool.and_eq_true] at plain
      rw [buildAll] at built
      split at built
      case h_1 => cases built
      case h_2 element later builtFirst =>
        obtain ⟨rfl, firstIds⟩ := build_ids drawn draft plain.1 element later builtFirst
        split at built
        case h_1 => cases built
        case h_2 others final builtRest =>
          obtain ⟨rfl, otherIds⟩ :=
            build_all_ids (drawn + element.size) rest plain.2 others final builtRest
          cases built
          rw [Element.totalSize, Element.allPostorderIds, firstIds, otherIds, Id.draws_append,
            Nat.add_assoc]
          exact ⟨rfl, rfl⟩
end

theorem build_all_between (drawn : Nat) (drafts : List Draft) (plain : allUnnamed drafts = true)
    (elements : List (Element Id)) (last : Nat)
    (built : buildAll drawn drafts = (.ok elements, last)) :
    Id.DrawnBetween drawn last (Element.allPreorderIds elements) := by
  obtain ⟨rfl, ids⟩ := build_all_ids drawn drafts plain elements last built
  have drawnInOrder := Id.draws_between drawn (Element.totalSize elements)
  rw [← ids] at drawnInOrder
  exact drawnInOrder.subperm (Element.all_preorder_perm_postorder _).subperm

theorem build_between (drawn : Nat) (draft : Draft) (plain : draft.unnamed = true)
    (element : Element Id) (last : Nat) (built : draft.build drawn = (.ok element, last)) :
    Id.DrawnBetween drawn last (Element.allPreorderIds [element]) := by
  refine build_all_between drawn [draft] ?_ [element] last ?_
  · rw [allUnnamed, plain]
    rfl
  · rw [buildAll, built]
    rfl

end Draft

end InlineFormula
