import InlineFormula.Document.Find
import InlineFormula.Document.Reach
import InlineFormula.Proofs.ActionRuns
import InlineFormula.Proofs.NormalChecks
import InlineFormula.Table

/-!
What does not hang on identifiers. Elements that differ in nothing but identifiers are written,
checked, edited, found and tabulated alike, and faults arise for both or for neither; of what a
caller brings along, only that is asked of predicates, validators and finders.
-/

set_option autoImplicit false

namespace InlineFormula

def Agree {α β : Type} (same : α → β → Prop) : Except Fault α → Except Fault β → Prop
  | .ok left, .ok right => same left right
  | .error left, .error right => left = right
  | _, _ => False

namespace Agree

variable {α β γ δ : Type} {same : α → β → Prop} {left : Except Fault α} {right : Except Fault β}

theorem cases (agree : Agree same left right) :
    (∃ fault, left = .error fault ∧ right = .error fault) ∨
      ∃ value other, left = .ok value ∧ right = .ok other ∧ same value other := by
  cases left with
  | error fault =>
      cases right with
      | error other => exact .inl ⟨fault, rfl, congrArg _ (Eq.symm agree)⟩
      | ok other => exact agree.elim
  | ok value =>
      cases right with
      | error fault => exact agree.elim
      | ok other => exact .inr ⟨value, other, rfl, rfl, agree⟩

theorem map (agree : Agree same left right) {kept : γ → δ → Prop} (change : α → γ)
    (changeRight : β → δ)
    (keeps : ∀ value other, same value other → kept (change value) (changeRight other)) :
    Agree kept (left.map change) (right.map changeRight) := by
  obtain ⟨fault, rfl, rfl⟩ | ⟨value, other, rfl, rfl, alike⟩ := agree.cases
  · rfl
  · exact keeps value other alike

theorem refl (result : Except Fault α) : Agree Eq result result := by
  cases result <;> rfl

theorem same_map (agree : Agree same left right) (shown : α → γ) (shownRight : β → γ)
    (equal : ∀ value other, same value other → shown value = shownRight other) :
    left.map shown = right.map shownRight := by
  obtain ⟨fault, rfl, rfl⟩ | ⟨value, other, rfl, rfl, alike⟩ := agree.cases
  · rfl
  · exact congrArg Except.ok (equal value other alike)

end Agree

namespace Element

variable {ι κ : Type}

theorem shape_eq_iff (left : Element ι) (right : Element κ) :
    left.shape = right.shape ↔ left.kind = right.kind ∧ left.value = right.value ∧
      shapes left.children = shapes right.children := by
  cases left
  cases right
  simp [shape]

theorem shapes_eq_cons {element : Element ι} {rest : List (Element ι)} {others : List (Element κ)}
    (same : shapes (element :: rest) = shapes others) :
    ∃ other back, others = other :: back ∧ element.shape = other.shape ∧
      shapes rest = shapes back := by
  cases others with
  | nil => cases same
  | cons other back =>
      obtain ⟨first, behind⟩ := List.cons.inj same
      exact ⟨other, back, rfl, first, behind⟩

theorem shapes_take (place : Nat) (elements : List (Element ι)) :
    shapes (elements.take place) = (shapes elements).take place := by
  simp only [shapes_eq_map, List.map_take]

theorem shapes_drop (place : Nat) (elements : List (Element ι)) :
    shapes (elements.drop place) = (shapes elements).drop place := by
  simp only [shapes_eq_map, List.map_drop]

theorem shapes_set (place : Nat) (element : Element ι) (elements : List (Element ι)) :
    shapes (elements.set place element) = (shapes elements).set place element.shape := by
  simp only [shapes_eq_map, List.map_set]

theorem shapes_erase_idx (place : Nat) (elements : List (Element ι)) :
    shapes (elements.eraseIdx place) = (shapes elements).eraseIdx place := by
  simp only [List.eraseIdx_eq_take_drop_succ, shapes_append, shapes_take, shapes_drop]

theorem length_of_shapes {left : List (Element ι)} {right : List (Element κ)}
    (same : shapes left = shapes right) : left.length = right.length := by
  simpa [shapes_eq_map] using congrArg List.length same

theorem at_place_of_shapes {left : List (Element ι)} {right : List (Element κ)}
    (same : shapes left = shapes right) (place : Nat) :
    left[place]? = none ∧ right[place]? = none ∨
      ∃ element other, left[place]? = some element ∧ right[place]? = some other ∧
        element.shape = other.shape := by
  have there : left[place]?.map shape = right[place]?.map shape := by
    rw [← List.getElem?_map, ← List.getElem?_map, ← shapes_eq_map, ← shapes_eq_map, same]
  cases first : left[place]? with
  | none =>
      rw [first] at there
      exact .inl ⟨rfl, Option.map_eq_none_iff.mp there.symm⟩
  | some element =>
      rw [first] at there
      obtain ⟨other, second, shaped⟩ := Option.map_eq_some_iff.mp there.symm
      exact .inr ⟨element, other, rfl, second, shaped.symm⟩

/-- The element with its identifiers drawn anew from the start, whatever they were. -/
def renumbered (element : Element ι) : Element Id := element.shape.numbered 0

def allRenumbered (elements : List (Element ι)) : List (Element Id) :=
  allNumbered 0 (shapes elements)

theorem renumbered_eq_iff (left : Element ι) (right : Element κ) :
    left.renumbered = right.renumbered ↔ left.shape = right.shape := by
  constructor
  · intro same
    simpa only [renumbered, numbered_shape, shape_shape] using congrArg shape same
  · intro same
    rw [renumbered, same, renumbered]

theorem all_renumbered_eq_iff (left : List (Element ι)) (right : List (Element κ)) :
    allRenumbered left = allRenumbered right ↔ shapes left = shapes right := by
  constructor
  · intro same
    simpa only [allRenumbered, all_numbered_shapes, shapes_shapes] using congrArg shapes same
  · intro same
    rw [allRenumbered, same, allRenumbered]

theorem all_same_of_shapes {left right others backs : List (Element Id)}
    (same : shapes left = shapes right) (sameOthers : shapes others = shapes backs) :
    allSame left others = allSame right backs := by
  rw [Bool.eq_iff_iff, all_same_iff, all_same_iff, same, sameOthers]

end Element

def Predicate.IgnoresIds (predicate : Predicate) : Prop :=
  ∀ text left right, Element.shapes left = Element.shapes right →
    predicate text left = predicate text right

def Validator.IgnoresIds (validator : Validator) : Prop :=
  ∀ text left right, Element.shapes left = Element.shapes right →
    validator text left = validator text right

def Finder.IgnoresIds (finder : Finder) : Prop :=
  ∀ left right index, left.shape = right.shape → finder left index = finder right index

def RuleDraft.IgnoresIds (draft : RuleDraft) : Prop :=
  ∀ predicate, draft.predicate = some predicate → Predicate.IgnoresIds predicate

def Rule.IgnoresIds (rule : Rule) : Prop :=
  ∀ predicate message, rule = .custom predicate message → Predicate.IgnoresIds predicate

structure Configuration.IgnoresIds (configuration : Configuration) : Prop where
  rules : ∀ rule ∈ configuration.rules, rule.IgnoresIds
  validator : ∀ validator, configuration.validator = some validator →
    Validator.IgnoresIds validator

theorem Rule.build_ignores_ids (settings : Settings) (draft : RuleDraft) (rule : Rule)
    (ignores : draft.IgnoresIds) (built : Rule.build settings draft = .ok rule) :
    rule.IgnoresIds := by
  rintro predicate message rfl
  unfold Rule.build at built
  split at built
  case h_1 =>
    split at built
    · cases built
    · cases built
  case h_2 => cases built
  case h_3 given type brought =>
    cases built
    exact ignores predicate brought
  case h_4 => cases built
  case h_5 => cases built

section Checks

variable (settings : Settings) (text : String) {left right : List (Element Id)}
  (same : Element.shapes left = Element.shapes right)

include same

theorem Check.find_same (check : Check) :
    check.find settings text left = check.find settings text right := by
  cases check with
  | operatorsSurrounded =>
      exact congrArg Finding.ofPosition? (Adjacency.first_unsurrounded_same left right same)
  | noConsecutiveOperands =>
      exact congrArg Finding.ofPosition? (Adjacency.first_consecutive_same left right same)
  | bracketsMatch | nonEmpty | hasEquals => rfl

theorem Rule.apply_same (rule : Rule) (ignores : rule.IgnoresIds) :
    rule.apply settings text left = rule.apply settings text right := by
  cases rule with
  | check check message => rw [apply, apply, check.find_same settings text same]
  | custom predicate message =>
      rw [apply, apply, ignores predicate message rfl text left right same]
  | unknown tag message predicate => rfl

theorem Rule.apply_all_same (rules : List Rule) (ignores : ∀ rule ∈ rules, rule.IgnoresIds) :
    applyAll settings text left rules = applyAll settings text right rules := by
  induction rules with
  | nil => rfl
  | cons rule rest induction =>
      rw [List.forall_mem_cons] at ignores
      rw [applyAll, applyAll, rule.apply_same settings text same ignores.1, induction ignores.2]

theorem Verdict.of_rules_same (rules : List Rule) (ignores : ∀ rule ∈ rules, rule.IgnoresIds) :
    ofRules settings text left rules = ofRules settings text right rules := by
  rw [ofRules, ofRules, Rule.apply_all_same settings text same rules ignores]

theorem Check.summarize_same :
    summarize settings text left = summarize settings text right := by
  have each : ∀ check : Check, (Rule.check check none).apply settings text left =
      (Rule.check check none).apply settings text right := by
    intro check
    apply Rule.apply_same settings text same
    rintro predicate message ⟨⟩
  simp only [summarize, each]

end Checks

theorem Formula.write_same {left right : List (Element Id)}
    (same : Element.shapes left = Element.shapes right) : write left = write right := by
  rw [← write_shapes, same, write_shapes]

structure Document.Alike (left right : Document) : Prop where
  shapes : Element.shapes left.elements = Element.shapes right.elements
  last : left.last = right.last

structure Outcome.Alike {α : Type} (same : α → α → Prop) (left right : Outcome α) : Prop where
  document : left.document.Alike right.document
  result : Agree same left.result right.result
  log : left.log = right.log

inductive EditAnswer.Alike : EditAnswer → EditAnswer → Prop where
  | done : Alike .done .done
  | stored (left right : Element Id) (same : left.shape = right.shape) :
      Alike (.stored left) (.stored right)
  | found (present : Bool) : Alike (.found present) (.found present)

theorem EditAnswer.Alike.changes {left right : EditAnswer} (alike : left.Alike right) :
    left.changes = right.changes := by
  cases alike <;> rfl

inductive Edit.Alike : Edit → Edit → Prop where
  | setText (text : String) : Alike (.setText text) (.setText text)
  | insert (left right : Element Id) (index : Option Int) (same : left.shape = right.shape) :
      Alike (.insert left index) (.insert right index)
  | update (index : Int) (kind : Option Datum) (value : Option String)
      (left right : Option (List (Element Id)))
      (same : left.map Element.shapes = right.map Element.shapes) :
      Alike (.update index { kind, value, children := left })
        (.update index { kind, value, children := right })
  | remove (index : Int) : Alike (.remove index) (.remove index)
  | setElements (left right : List (Element Id))
      (same : Element.shapes left = Element.shapes right) :
      Alike (.setElements left) (.setElements right)
  | clear : Alike .clear .clear

structure Revision.Alike (left right : Revision) : Prop where
  shapes : Element.shapes left.elements = Element.shapes right.elements
  answer : left.answer.Alike right.answer

theorem Change.apply_alike (kind : Option Datum) (value : Option String)
    (left right : Option (List (Element Id)))
    (same : left.map Element.shapes = right.map Element.shapes) (element other : Element Id)
    (shaped : element.shape = other.shape) :
    Agree (fun changed otherChanged => changed.shape = otherChanged.shape)
      (Change.apply { kind, value, children := left } element)
      (Change.apply { kind, value, children := right } other) := by
  obtain ⟨sameKind, sameValue, sameChildren⟩ := (Element.shape_eq_iff element other).mp shaped
  have children : Element.shapes (left.getD element.children) =
      Element.shapes (right.getD other.children) := by
    cases left with
    | none =>
        cases right with
        | none => exact sameChildren
        | some given => cases same
    | some given =>
        cases right with
        | none => cases same
        | some otherGiven => exact Option.some.inj same
  cases kind with
  | none =>
      exact (Element.shape_eq_iff _ _).mpr ⟨sameKind, by rw [sameValue], children⟩
  | some datum =>
      refine (Agree.refl (Kind.ofDatum datum)).map _ _ ?_
      rintro known _ rfl
      exact (Element.shape_eq_iff _ _).mpr ⟨rfl, by rw [sameValue], children⟩

theorem Edit.revise_alike (settings : Settings) (drawn other : Nat)
    {left right : List (Element Id)} (same : Element.shapes left = Element.shapes right)
    {edit otherEdit : Edit} (alike : edit.Alike otherEdit) :
    Agree Revision.Alike (edit.revise settings drawn left)
      (otherEdit.revise settings other right) := by
  have sized := Element.length_of_shapes same
  cases alike with
  | setText text =>
      refine ⟨?_, .done⟩
      rw [Formula.parse_numbered_shapes, Formula.parse_numbered_shapes]
  | insert element otherElement index shaped =>
      have copies : (element.copied drawn).shape = (otherElement.copied other).shape := by
        rw [Element.copied_shape, Element.copied_shape, shaped]
      refine ⟨?_, .stored _ _ copies⟩
      simp only [Element.shapes_append, Element.shapes, Element.shapes_take, Element.shapes_drop,
        same, sized, copies]
  | update index kind value children otherChildren shaped =>
      simp only [revise, elementWithin, sized]
      cases indexWithin index right.length with
      | none => exact ⟨same, .found false⟩
      | some place =>
          obtain ⟨first, second⟩ | ⟨element, otherElement, first, second, elementSame⟩ :=
            Element.at_place_of_shapes same place
          · simp only [Option.bind_some, first, second, Option.map_none]
            exact ⟨same, .found false⟩
          · simp only [Option.bind_some, first, second, Option.map_some]
            refine (Change.apply_alike kind value children otherChildren shaped element
              otherElement elementSame).map _ _ ?_
            intro changed otherChanged changedSame
            refine ⟨?_, .found true⟩
            rw [Element.shapes_set, Element.shapes_set, same, changedSame]
  | remove index =>
      simp only [revise, sized]
      cases indexWithin index right.length with
      | none => exact ⟨same, .found false⟩
      | some place =>
          refine ⟨?_, .found true⟩
          rw [Element.shapes_erase_idx, Element.shapes_erase_idx, same]
  | setElements elements otherElements shaped =>
      refine ⟨?_, .done⟩
      rw [Element.all_copied_shapes, Element.all_copied_shapes, shaped]
  | clear => exact ⟨rfl, .done⟩

namespace Document

variable (settings : Settings) {left right : Document}

theorem text_alike (alike : left.Alike right) : left.text = right.text :=
  Formula.write_same alike.shapes

theorem description_alike (alike : left.Alike right) : left.description = right.description :=
  congrArg (fun text => "FormulaDocument(" ++ Text.quoted text ++ ")") (text_alike alike)

theorem element_at_alike (alike : left.Alike right) (index : Int) :
    (left.elementAt? index).map Element.shape = (right.elementAt? index).map Element.shape := by
  simp only [elementAt?, elementWithin, Element.length_of_shapes alike.shapes]
  cases indexWithin index right.elements.length with
  | none => rfl
  | some place =>
      obtain ⟨first, second⟩ | ⟨element, other, first, second, same⟩ :=
        Element.at_place_of_shapes alike.shapes place
      · simp [first, second]
      · simp [first, second, same]

section Configured

variable (configuration : Configuration) (ignores : configuration.IgnoresIds)

include ignores

theorem judge_alike (alike : left.Alike right) :
    left.judge settings configuration = right.judge settings configuration := by
  unfold judge
  rw [text_alike alike]
  cases chosen : configuration.validator with
  | some validator => exact ignores.validator validator chosen _ _ _ alike.shapes
  | none =>
      dsimp only
      rw [Verdict.of_rules_same settings right.text alike.shapes configuration.rules
        ignores.rules]

theorem validate_alike (alike : left.Alike right) :
    (left.validate settings configuration).Alike Eq
      (right.validate settings configuration) := by
  unfold validate
  rw [judge_alike settings configuration ignores alike]
  cases right.judge settings configuration with
  | error fault => exact ⟨alike, rfl, rfl⟩
  | ok verdict =>
      dsimp only
      split
      · exact ⟨alike, rfl, rfl⟩
      · refine ⟨⟨alike.shapes, rfl⟩, rfl, ?_⟩
        simp only [logOf, text_alike alike]

/-- Faults, results and entries are those of the other edit, whatever identifiers were drawn. -/
theorem edit_alike (alike : left.Alike right) (drawn other : Nat) {edit otherEdit : Edit}
    (editAlike : edit.Alike otherEdit) :
    (left.edit settings configuration drawn edit).1.Alike EditAnswer.Alike
      (right.edit settings configuration other otherEdit).1 := by
  unfold Document.edit
  obtain ⟨fault, first, second⟩ | ⟨revision, otherRevision, first, second, revised⟩ :=
    (edit.revise_alike settings drawn other alike.shapes editAlike).cases
  · rw [first, second]
    exact ⟨alike, rfl, rfl⟩
  · have content : ({ left with elements := revision.elements } : Document).Alike
        { right with elements := otherRevision.elements } := ⟨revised.shapes, alike.last⟩
    simp only [first, second, revised.answer.changes]
    split
    · have validated := validate_alike settings configuration ignores content
      exact ⟨validated.document, validated.result.map _ _ fun _ _ _ => revised.answer,
        validated.log⟩
    · exact ⟨content, revised.answer, rfl⟩

theorem start_alike (drawn other : Nat) (text : String) :
    (start settings configuration drawn text).1.Alike EditAnswer.Alike
      (start settings configuration other text).1 := by
  unfold start
  split
  · exact ⟨⟨rfl, rfl⟩, .done, rfl⟩
  · exact edit_alike settings configuration ignores ⟨rfl, rfl⟩ drawn other (.setText text)

end Configured

theorem find_from_alike (finder : Finder) (ignores : finder.IgnoresIds) (start : Nat)
    (elements others : List (Element Id))
    (same : Element.shapes elements = Element.shapes others) :
    findFrom finder start elements = findFrom finder start others := by
  induction elements generalizing start others with
  | nil =>
      cases others with
      | nil => rfl
      | cons other back => cases same
  | cons element rest induction =>
      obtain ⟨other, back, rfl, first, behind⟩ := Element.shapes_eq_cons same
      rw [findFrom, findFrom, ignores element other start first,
        induction (start + 1) back behind]

theorem access_place_alike (alike : left.Alike right) (access : Access) (index : Int) :
    left.accessPlace access index = right.accessPlace access index := by
  unfold accessPlace
  rw [Element.length_of_shapes alike.shapes]

end Document

structure Touch.Alike (left right : Touch) : Prop where
  value : left.value = right.value
  child : left.child.map Element.shape = right.child.map Element.shape

theorem Touch.Alike.reaching {left right : Touch} (alike : left.Alike right) (access : Access)
    (depth : Nat) :
    (Touch.reaching access depth left).Alike (Touch.reaching access depth right) := by
  cases access with
  | shared => exact alike
  | copied =>
      constructor
      · simp only [Touch.reaching, alike.value]
      · simp only [Touch.reaching]
        split
        · exact alike.child
        · rfl

theorem Touch.apply_alike {left right : Touch} (alike : left.Alike right)
    {element other : Element Id} (same : element.shape = other.shape) :
    (left.apply element).shape = (right.apply other).shape := by
  rw [Element.shape_eq_iff] at same ⊢
  obtain ⟨kind, value, children⟩ := same
  have added : Element.shapes left.child.toList = Element.shapes right.child.toList := by
    simpa [Element.shapes_eq_map, Option.toList_map] using congrArg Option.toList alike.child
  refine ⟨kind, ?_, ?_⟩
  · simp only [apply, alike.value, value]
  · simp only [apply, Element.shapes_append, children, added]

theorem Element.touch_at_alike {left right : Touch} (alike : left.Alike right)
    (path : List Int) (element other : Element Id) (same : element.shape = other.shape) :
    Agree (fun touched otherTouched => touched.shape = otherTouched.shape)
      (element.touchAt left path) (other.touchAt right path) := by
  induction path generalizing element other with
  | nil => exact Touch.apply_alike alike same
  | cons index path induction =>
      obtain ⟨kind, value, children⟩ := (shape_eq_iff element other).mp same
      unfold touchAt
      rw [length_of_shapes children]
      cases listPosition index other.children.length with
      | error fault => rfl
      | ok place =>
          obtain ⟨first, second⟩ | ⟨child, otherChild, first, second, childSame⟩ :=
            at_place_of_shapes children place
          · simp only [first, second]
            rfl
          · simp only [first, second]
            refine (induction child otherChild childSame).map _ _ ?_
            intro touched otherTouched touchedSame
            rw [shape_eq_iff]
            refine ⟨kind, value, ?_⟩
            rw [shapes_set, shapes_set, children, touchedSame]

theorem Document.touch_alike {left right : Document} (alike : left.Alike right) (place : Nat)
    (path : List Int) {touch otherTouch : Touch} (touchAlike : touch.Alike otherTouch) :
    Agree Document.Alike (left.touch place path touch) (right.touch place path otherTouch) := by
  unfold Document.touch
  obtain ⟨first, second⟩ | ⟨element, other, first, second, same⟩ :=
    Element.at_place_of_shapes alike.shapes place
  · simp only [first, second]
    rfl
  · simp only [first, second]
    refine (Element.touch_at_alike touchAlike path element other same).map _ _ ?_
    intro touched otherTouched touchedSame
    refine ⟨?_, alike.last⟩
    rw [Element.shapes_set, Element.shapes_set, alike.shapes, touchedSame]

namespace Table

variable {ι : Type}

theorem joined_shapes (elements : List (Element ι)) :
    joined (Element.shapes elements) = joined elements := by
  cases elements with
  | nil => rfl
  | cons element rest =>
      have value (element : Element ι) : element.shape.value = element.value := by
        cases element
        rfl
      simp only [joined, Element.shapes, List.map_cons, value, Element.shapes_eq_map,
        List.map_map, Function.comp_def]

def shapeRow (shape : Shape) : List Cell :=
  [.text shape.kind.tag, .text shape.value, joined shape.superscripts, joined shape.subscripts]

theorem shape_row_eq (element : Element Id) :
    shapeRow element.shape = [.text element.kind.tag, .text element.value,
      joined element.superscripts, joined element.subscripts] := by
  obtain ⟨kind, value, children, id⟩ := element
  have kinds (child : Element Id) : child.shape.kind = child.kind := by
    cases child
    rfl
  have filtered (wanted : Kind) :
      (Element.shapes children).filter (fun child => child.kind == wanted) =
        Element.shapes (children.filter fun child => child.kind == wanted) := by
    simp only [Element.shapes_eq_map, List.filter_map, Function.comp_def, kinds]
  simp only [shapeRow, Element.shape, Element.superscripts, Element.subscripts, filtered,
    joined_shapes]

theorem of_elements_without_ids (elements : List (Element Id)) :
    (ofElements elements).without "id" =
      { indexName := some "position"
        columns := ["kind", "value", "superscript", "subscript"]
        rows := (Element.shapes elements).map shapeRow } := by
  simp [ofElements, without, elementRow, Element.shapes_eq_map, shape_row_eq]

end Table

mutual
def Draft.withoutIds : Draft → Draft
  | ⟨kind, value, children, _⟩ => ⟨kind, value, Draft.allWithoutIds children, none⟩

def Draft.allWithoutIds : List Draft → List Draft
  | [] => []
  | draft :: rest => draft.withoutIds :: Draft.allWithoutIds rest
end

namespace Draft

mutual
/-- The identifiers that a draft brings decide nothing about the shape that is built. -/
theorem build_without_ids : (draft : Draft) → (drawn other : Nat) →
    Agree (fun element plain => element.shape = plain.shape) (draft.build drawn).1
      (draft.withoutIds.build other).1
  | ⟨kind, value, children, id⟩, drawn, other => by
      have below := build_all_without_ids children drawn other
      rw [build, withoutIds, build]
      generalize buildAll drawn children = built at below ⊢
      generalize buildAll other (allWithoutIds children) = plainBuilt at below ⊢
      rcases built with ⟨result, later⟩
      rcases plainBuilt with ⟨plainResult, plainLater⟩
      obtain ⟨fault, ⟨⟩, ⟨⟩⟩ | ⟨elements, plains, ⟨⟩, ⟨⟩, same⟩ := below.cases
      · rfl
      · refine (Agree.refl (Kind.ofDatum kind)).map _ _ ?_
        rintro known _ rfl
        exact (Element.shape_eq_iff _ _).mpr ⟨rfl, rfl, same⟩

theorem build_all_without_ids : (drafts : List Draft) → (drawn other : Nat) →
    Agree (fun elements plains => Element.shapes elements = Element.shapes plains)
      (buildAll drawn drafts).1 (buildAll other (allWithoutIds drafts)).1
  | [], _, _ => rfl
  | draft :: rest, drawn, other => by
      have first := build_without_ids draft drawn other
      rw [buildAll, allWithoutIds, buildAll]
      generalize draft.build drawn = built at first ⊢
      generalize draft.withoutIds.build other = plainBuilt at first ⊢
      rcases built with ⟨result, later⟩
      rcases plainBuilt with ⟨plainResult, plainLater⟩
      obtain ⟨fault, ⟨⟩, ⟨⟩⟩ | ⟨element, plain, ⟨⟩, ⟨⟩, same⟩ := first.cases
      · rfl
      · have behind := build_all_without_ids rest later plainLater
        dsimp only
        generalize buildAll later rest = builtRest at behind ⊢
        generalize buildAll plainLater (allWithoutIds rest) = plainRest at behind ⊢
        rcases builtRest with ⟨restResult, last⟩
        rcases plainRest with ⟨plainRestResult, plainLast⟩
        obtain ⟨fault, ⟨⟩, ⟨⟩⟩ | ⟨elements, plains, ⟨⟩, ⟨⟩, others⟩ := behind.cases
        · rfl
        · show element.shape :: Element.shapes elements = plain.shape :: Element.shapes plains
          rw [same, others]
end

end Draft

/-- What becomes of a reading does not hang on the number of identifiers drawn before it. -/
theorem Options.read_formula_alike (options : Options) (drawn other : Nat) (text : String) :
    Agree (fun elements plains => Element.shapes elements = Element.shapes plains)
      (options.readFormula drawn text).1 (options.readFormula other text).1 := by
  unfold readFormula
  split
  · rfl
  · split
    · rfl
    · split
      · rfl
      · show Element.shapes (Formula.parseNumbered options.settings drawn text) =
          Element.shapes (Formula.parseNumbered options.settings other text)
        rw [Formula.parse_numbered_shapes, Formula.parse_numbered_shapes]

theorem Options.readable_alike (options : Options) (drawn other : Nat) (text : String) :
    Agree Eq (options.readable drawn text).1 (options.readable other text).1 := by
  have agree := options.read_formula_alike drawn other text
  unfold readable
  generalize options.readFormula drawn text = left at agree ⊢
  generalize options.readFormula other text = right at agree ⊢
  rcases left with ⟨left, last⟩
  rcases right with ⟨right, otherLast⟩
  obtain ⟨fault, ⟨⟩, ⟨⟩⟩ | ⟨_, _, ⟨⟩, ⟨⟩, -⟩ := agree.cases <;> rfl

namespace Source

def withoutIds : Source → Source
  | .drafts given => .drafts (Draft.allWithoutIds given)
  | .text given => .text given

theorem build_without_ids (options : Options) (drawn other : Nat) (source : Source) :
    Agree (fun elements plains => Element.shapes elements = Element.shapes plains)
      (source.build options drawn).1 (source.withoutIds.build options other).1 := by
  cases source with
  | drafts given => exact Draft.build_all_without_ids given drawn other
  | text given => exact options.read_formula_alike drawn other given

end Source

end InlineFormula
