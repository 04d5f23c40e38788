import InlineFormula.Proofs.CommandEffects
import InlineFormula.Proofs.DrawnIds
import InlineFormula.Proofs.RoundTrip

/-!
The order of draws. A scan draws an identifier at each token that it makes an element of, and a
copy draws one for each element after those of its children. Both come to the numbers that are told
in advance by the shape of what they make, without a gap, and whatever identifiers there were.
-/

set_option autoImplicit false

namespace InlineFormula

open Token (leadingModifiers modifierShape assemble)

theorem run_draws_bind {α β : Type} (first : StateM Nat α) (rest : α → StateM Nat β)
    (drawn : Nat) :
    (first >>= rest).run drawn = (rest (first.run drawn).1).run (first.run drawn).2 := rfl

theorem run_draws_pure {α : Type} (value : α) (drawn : Nat) :
    (pure value : StateM Nat α).run drawn = (value, drawn) := rfl

theorem run_next (drawn : Nat) : Id.next.run drawn = (Id.ofNat (drawn + 1), drawn + 1) := rfl

namespace Element

variable {ι : Type}

mutual
theorem run_copying : (element : Element ι) → (drawn : Nat) →
    element.copying.run drawn = (element.copied drawn, drawn + element.size)
  | ⟨kind, value, children, _⟩, drawn => by
      rw [copying, run_draws_bind, run_copying_all children drawn, run_draws_bind, run_next,
        run_draws_pure, copied, size]
      rfl

theorem run_copying_all : (elements : List (Element ι)) → (drawn : Nat) →
    (copyingAll elements).run drawn = (allCopied drawn elements, drawn + totalSize elements)
  | [], drawn => rfl
  | element :: rest, drawn => by
      rw [copyingAll, run_draws_bind, run_copying element drawn, run_draws_bind,
        run_copying_all rest, run_draws_pure, allCopied, totalSize, Nat.add_assoc]
end

theorem copying_all_eq_map_m (elements : List (Element ι)) :
    copyingAll elements = elements.mapM copying := by
  induction elements with
  | nil => rw [copyingAll, List.mapM_nil]
  | cons element rest induction => rw [copyingAll, List.mapM_cons, induction]

mutual
theorem shape_size : (element : Element ι) → element.shape.size = element.size
  | ⟨_, _, children, _⟩ => by rw [shape, size, shapes_total_size children, size]

theorem shapes_total_size : (elements : List (Element ι)) →
    totalSize (shapes elements) = totalSize elements
  | [] => rfl
  | element :: rest => by
      rw [shapes, totalSize, shape_size element, shapes_total_size rest, totalSize]
end

mutual
theorem copied_shape_eq : (element : Element ι) → (drawn : Nat) →
    element.shape.copied drawn = element.copied drawn
  | ⟨_, _, children, _⟩, drawn => by
      rw [shape, copied, all_copied_shapes_eq children drawn, shapes_total_size children, copied]

theorem all_copied_shapes_eq : (elements : List (Element ι)) → (drawn : Nat) →
    allCopied drawn (shapes elements) = allCopied drawn elements
  | [], _ => rfl
  | element :: rest, drawn => by
      rw [shapes, allCopied, copied_shape_eq element drawn, shape_size element,
        all_copied_shapes_eq rest, allCopied]
end

theorem decorated_nil (element : Element ι) : element.decorated [] = element := by
  obtain ⟨kind, value, children, id⟩ := element
  rw [decorated, List.append_nil]

theorem decorated_append (element : Element ι) (front back : List (Element ι)) :
    (element.decorated front).decorated back = element.decorated (front ++ back) := by
  rw [decorated, decorated, decorated, List.append_assoc]

end Element

namespace Token

theorem run_attach_atom (elements : List (Element Id)) (kind : Kind) (value : List Char)
    (drawn : Nat) :
    (attach elements (atom kind value)).run drawn =
      (elements ++ [⟨kind, String.ofList value, [], Id.ofNat (drawn + 1)⟩], drawn + 1) := rfl

theorem run_attach_modifier (front : List (Element Id)) (last : Element Id) (marker : Marker)
    (spelling : Spelling) (drawn : Nat) :
    (attach (front ++ [last]) (modifier marker spelling)).run drawn =
      (front ++ [last.decorated [(modifierShape marker spelling).numbered drawn]],
        drawn + 1) := by
  rw [attach, List.getLast?_concat, List.dropLast_concat]
  rfl

theorem leading_modifiers_atom (kind : Kind) (value : List Char) (rest : List Token) :
    leadingModifiers (atom kind value :: rest) = [] := rfl

theorem modifier_shape_size (marker : Marker) (spelling : Spelling) :
    (modifierShape marker spelling).size = 1 := rfl

theorem total_size_leading (list : List Token) :
    Element.totalSize (leadingModifiers list) + Element.totalSize (assemble list) =
      list.length := by
  induction list with
  | nil => rfl
  | cons token rest induction =>
      rw [List.length_cons, ← induction]
      cases token with
      | atom kind value =>
          rw [leading_modifiers_atom, assemble, Element.totalSize, Element.totalSize,
            Element.size]
          omega
      | modifier marker spelling =>
          rw [leadingModifiers, assemble, Element.totalSize, modifier_shape_size]
          omega

theorem all_numbered_atom (kind : Kind) (value : List Char) (rest : List Token) (drawn : Nat) :
    Element.allNumbered drawn (assemble (atom kind value :: rest)) =
      Element.decorated ⟨kind, String.ofList value, [], Id.ofNat (drawn + 1)⟩
          (Element.allNumbered (drawn + 1) (leadingModifiers rest)) ::
        Element.allNumbered (drawn + 1 + Element.totalSize (leadingModifiers rest))
          (assemble rest) := by
  rw [assemble, Element.allNumbered, Element.numbered, Element.size, Nat.add_right_comm,
    Nat.add_assoc drawn]
  rfl

theorem all_numbered_modifier (marker : Marker) (spelling : Spelling) (rest : List Token)
    (drawn : Nat) :
    Element.allNumbered drawn (leadingModifiers (modifier marker spelling :: rest)) =
      (modifierShape marker spelling).numbered drawn ::
        Element.allNumbered (drawn + 1) (leadingModifiers rest) := by
  rw [leadingModifiers, Element.allNumbered, modifier_shape_size]

/-- With an element to attach modifiers to, each token draws one identifier, and the elements are
those of the tokens with their numbers. The element that was last takes the modifiers that come
first. -/
theorem run_attach_all (list : List Token) (front : List (Element Id)) (last : Element Id)
    (drawn : Nat) :
    (list.foldlM attach (front ++ [last])).run drawn =
      (front ++ last.decorated (Element.allNumbered drawn (leadingModifiers list)) ::
        Element.allNumbered (drawn + Element.totalSize (leadingModifiers list)) (assemble list),
        drawn + list.length) := by
  induction list generalizing front last drawn with
  | nil =>
      have bare : last.decorated (Element.allNumbered drawn (leadingModifiers [])) = last :=
        last.decorated_nil
      rw [bare]
      rfl
  | cons token rest induction =>
      have counted : drawn + 1 + rest.length = drawn + (rest.length + 1) := by omega
      rw [List.foldlM_cons, run_draws_bind, List.length_cons]
      cases token with
      | atom kind value =>
          have bare : last.decorated
              (Element.allNumbered drawn (leadingModifiers (atom kind value :: rest))) = last :=
            last.decorated_nil
          have still : drawn + Element.totalSize (leadingModifiers (atom kind value :: rest)) =
              drawn := rfl
          rw [run_attach_atom, induction, bare, still, all_numbered_atom, counted,
            List.append_assoc, List.singleton_append]
      | modifier marker spelling =>
          have behind : drawn + 1 + Element.totalSize (leadingModifiers rest) =
              drawn + Element.totalSize
                (leadingModifiers (modifier marker spelling :: rest)) := by
            rw [leadingModifiers, Element.totalSize, modifier_shape_size, Nat.add_assoc]
          rw [run_attach_modifier, induction, Element.decorated_append, all_numbered_modifier,
            counted, behind, assemble, List.singleton_append]

/-- Without an element the modifiers in front are dropped, and they draw nothing. -/
theorem run_attach_none (list : List Token) (drawn : Nat) :
    (list.foldlM attach []).run drawn =
      (Element.allNumbered drawn (assemble list),
        drawn + (list.dropWhile isModifier).length) := by
  induction list with
  | nil => rfl
  | cons token rest induction =>
      cases token with
      | atom kind value =>
          have kept : (atom kind value :: rest).dropWhile isModifier = atom kind value :: rest :=
            rfl
          have counted : drawn + 1 + rest.length = drawn + (rest.length + 1) := by omega
          have others := run_attach_all rest []
            ⟨kind, String.ofList value, [], Id.ofNat (drawn + 1)⟩ (drawn + 1)
          rw [List.nil_append, List.nil_append] at others
          rw [List.foldlM_cons, run_draws_bind, run_attach_atom, List.nil_append, others,
            all_numbered_atom, kept, List.length_cons, counted]
      | modifier marker spelling => exact induction

theorem total_size_assemble (list : List Token) :
    Element.totalSize (assemble list) = (list.dropWhile isModifier).length := by
  induction list with
  | nil => rfl
  | cons token rest induction =>
      cases token with
      | atom kind value =>
          have counted := total_size_leading (atom kind value :: rest)
          rw [leading_modifiers_atom, Element.totalSize, Nat.zero_add] at counted
          exact counted
      | modifier marker spelling => exact induction

end Token

theorem Formula.run_reading (settings : Settings) (text : String) (drawn : Nat) :
    (reading settings text).run drawn =
      (parseNumbered settings drawn text,
        drawn + ((tokens settings text.toList).dropWhile Token.isModifier).length) :=
  Token.run_attach_none (tokens settings text.toList) drawn

/-- The identifiers of what is read are drawn in reading order, as many as there are tokens but for
the modifiers dropped in front. Those of a copy are drawn in building order, whatever identifiers
the original has; and a document that is given elements copies one after the other. No number is
left out or drawn twice. -/
theorem identifiers_drawn_in_order :
    (∀ (settings : Settings) (drawn : Nat) (text : String),
      let (parsed, last) := (Formula.reading settings text).run drawn
      parsed = Formula.parseNumbered settings drawn text ∧
      Element.shapes parsed = Formula.parse settings text ∧
      Element.allPreorderIds parsed = Id.draws drawn (Element.totalSize parsed) ∧
      last = drawn + Element.totalSize parsed ∧
      Element.totalSize parsed =
        ((tokens settings text.toList).dropWhile Token.isModifier).length) ∧
    (∀ (drawn : Nat) (element : Element Id),
      let (copy, last) := element.copying.run drawn
      copy = element.copied drawn ∧
      copy.shape = element.shape ∧
      copy = element.shape.copied drawn ∧
      copy.postorderIds = Id.draws drawn element.size ∧
      last = drawn + element.size) ∧
    ∀ (settings : Settings) (configuration : Configuration) (drawn : Nat) (document : Document)
      (given : List (Element Id)),
      let (outcome, last) := document.edit settings configuration drawn (.setElements given)
      (outcome.document.elements, last) = (given.mapM Element.copying).run drawn ∧
      Element.shapes outcome.document.elements = Element.shapes given ∧
      Element.allPostorderIds outcome.document.elements =
        Id.draws drawn (Element.totalSize given) ∧
      last = drawn + Element.totalSize given := by
  refine ⟨?_, ?_, ?_⟩
  · intro settings drawn text
    have sized : Element.totalSize (Formula.parseNumbered settings drawn text) =
        ((tokens settings text.toList).dropWhile Token.isModifier).length := by
      rw [Formula.parseNumbered, Element.all_numbered_size]
      exact Token.total_size_assemble (tokens settings text.toList)
    rw [Formula.run_reading, ← sized]
    refine ⟨rfl, ?_, ?_, rfl, rfl⟩
    · rw [Formula.parse_numbered_shapes, Element.shapes_self]
    · rw [Formula.parseNumbered, Element.all_numbered_ids, Element.all_numbered_size]
  · intro drawn element
    rw [Element.run_copying]
    exact ⟨rfl, element.copied_shape drawn, (element.copied_shape_eq drawn).symm,
      element.copied_ids drawn, rfl⟩
  · intro settings configuration drawn document given
    rcases ran : document.edit settings configuration drawn (.setElements given) with
      ⟨outcome, last⟩
    have edited := document.edit_elements settings configuration drawn (.setElements given) _ rfl
    rw [ran] at edited
    have held : outcome.document.elements = Element.allCopied drawn given := edited.1
    have counted : last = drawn + Element.totalSize given := edited.2
    dsimp only
    rw [held, ← Element.copying_all_eq_map_m, Element.run_copying_all]
    exact ⟨congrArg (Prod.mk _) counted, Element.all_copied_shapes drawn given,
      Element.all_copied_ids drawn given, counted⟩

end InlineFormula
