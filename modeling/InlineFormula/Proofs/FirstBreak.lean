import InlineFormula.Proofs.OperandChains
import Mathlib.Order.Bounds.Basic

/-!
The first break between neighbours. A check of neighbours fails at the least position at which
something is wrong with an element and its neighbours. What stands in front of that position passes
the check by itself, and the elements up to it are enough to make the check fail there.
-/

set_option autoImplicit false

namespace InlineFormula

variable {ι : Type}

namespace Adjacency

def Reports (wrong : Nat → Prop) : Option Nat → Prop
  | none => ∀ position, ¬wrong position
  | some position => IsLeast {other | wrong other} position

namespace Reports

variable {wrong : Nat → Prop} {found : Option Nat}

theorem at_head (head : wrong 0) : Reports wrong (some 0) :=
  ⟨head, fun position _ => Nat.zero_le position⟩

theorem behind_head (head : ¬wrong 0)
    (later : Reports (fun position => wrong (position + 1)) found) :
    Reports wrong (found.map (· + 1)) := by
  cases found with
  | none =>
      intro position
      cases position with
      | zero => exact head
      | succ position => exact later position
  | some first =>
      rcases later with ⟨broken, least⟩
      refine ⟨broken, ?_⟩
      intro position other
      cases position with
      | zero => exact absurd other head
      | succ position => exact Nat.succ_le_succ (least other)

theorem eq_some_iff (reports : Reports wrong found) (position : Nat) :
    found = some position ↔ IsLeast {other | wrong other} position := by
  cases found with
  | none =>
      constructor
      · intro same
        cases same
      · intro least
        exact absurd least.1 (reports position)
  | some first =>
      rw [Option.some.injEq]
      constructor
      · intro same
        rw [← same]
        exact reports
      · intro least
        exact reports.unique least

theorem eq_none_iff (reports : Reports wrong found) :
    found = none ↔ ∀ position, ¬wrong position := by
  cases found with
  | none => exact ⟨fun _ => reports, fun _ => rfl⟩
  | some first =>
      constructor
      · intro same
        cases same
      · intro never
        exact absurd reports.1 (never first)

end Reports

def operandAt (elements : List (Element ι)) (position : Nat) : Bool :=
  elements[position]?.any Element.isOperand

/-- Whether an operand stands right before a position, `operandBefore` telling of the one in front
of the list. -/
def operandLeftOf (operandBefore : Bool) (elements : List (Element ι)) : Nat → Bool
  | 0 => operandBefore
  | position + 1 => operandAt elements position

/-- A checked operator wants an operand behind it and, unless it is a sign, one before it. -/
def LacksOperand (operandBefore : Bool) (elements : List (Element ι)) (position : Nat) : Prop :=
  ∃ element, elements[position]? = some element ∧ element.isCheckedOperator = true ∧
    (operandAt elements (position + 1) = false ∨
      element.isSign = false ∧ operandLeftOf operandBefore elements position = false)

def RepeatsOperand (operandBefore : Bool) (elements : List (Element ι)) (position : Nat) : Prop :=
  operandAt elements position = true ∧ operandLeftOf operandBefore elements position = true

theorem operand_left_of_cons (operandBefore : Bool) (element : Element ι)
    (rest : List (Element ι)) (position : Nat) :
    operandLeftOf operandBefore (element :: rest) (position + 1) =
      operandLeftOf element.isOperand rest position := by
  cases position with
  | zero => rfl
  | succ position => rfl

theorem starts_with_operand_eq (elements : List (Element ι)) :
    startsWithOperand elements = operandAt elements 0 := by
  cases elements with
  | nil => rfl
  | cons element rest => rfl

theorem lacks_operand_head (operandBefore : Bool) (element : Element ι)
    (rest : List (Element ι)) :
    LacksOperand operandBefore (element :: rest) 0 ↔
      surrounded operandBefore element rest = false := by
  have behind : operandAt (element :: rest) (0 + 1) = startsWithOperand rest :=
    (starts_with_operand_eq rest).symm
  simp only [LacksOperand, List.getElem?_cons_zero, Option.some.injEq, exists_eq_left', behind,
    operandLeftOf, surrounded]
  cases element.isCheckedOperator <;> cases startsWithOperand rest <;> cases operandBefore <;>
    simp

theorem lacks_operand_behind (operandBefore : Bool) (element : Element ι)
    (rest : List (Element ι)) (position : Nat) :
    LacksOperand operandBefore (element :: rest) (position + 1) ↔
      LacksOperand element.isOperand rest position := by
  rw [LacksOperand, operand_left_of_cons]
  rfl

theorem repeats_operand_behind (operandBefore : Bool) (element : Element ι)
    (rest : List (Element ι)) (position : Nat) :
    RepeatsOperand operandBefore (element :: rest) (position + 1) ↔
      RepeatsOperand element.isOperand rest position := by
  rw [RepeatsOperand, operand_left_of_cons]
  rfl

theorem first_unsurrounded_reports (operandBefore : Bool) (elements : List (Element ι)) :
    Reports (LacksOperand operandBefore elements)
      (firstUnsurroundedAfter operandBefore elements) := by
  induction elements generalizing operandBefore with
  | nil =>
      intro position lacks
      rcases lacks with ⟨element, found, -⟩
      cases found
  | cons element rest induction =>
      rw [firstUnsurroundedAfter]
      split
      case isTrue around =>
        apply Reports.behind_head
        · rw [lacks_operand_head, around]
          exact Bool.noConfusion
        · simp only [lacks_operand_behind]
          exact induction element.isOperand
      case isFalse alone =>
        apply Reports.at_head
        rw [lacks_operand_head]
        exact Bool.eq_false_of_not_eq_true alone

theorem first_consecutive_reports (operandBefore : Bool) (elements : List (Element ι)) :
    Reports (RepeatsOperand operandBefore elements)
      (firstConsecutiveAfter operandBefore elements) := by
  induction elements generalizing operandBefore with
  | nil =>
      intro position repeats
      cases repeats.1
  | cons element rest induction =>
      have head : RepeatsOperand operandBefore (element :: rest) 0 ↔
          (operandBefore && element.isOperand) = true := by
        rw [Bool.and_comm, Bool.and_eq_true]
        rfl
      rw [firstConsecutiveAfter]
      split
      case isTrue both =>
        apply Reports.at_head
        exact head.mpr both
      case isFalse apart =>
        apply Reports.behind_head
        · exact mt head.mp apart
        · simp only [repeats_operand_behind]
          exact induction element.isOperand

theorem operand_left_of_congr (operandBefore : Bool) (left right : List (Element ι))
    (position : Nat) (same : ∀ other < position, left[other]? = right[other]?) :
    operandLeftOf operandBefore left position = operandLeftOf operandBefore right position := by
  cases position with
  | zero => rfl
  | succ before => rw [operandLeftOf, operandLeftOf, operandAt, operandAt, same before (by omega)]

theorem lacks_operand_congr (operandBefore : Bool) (left right : List (Element ι))
    (position : Nat) (same : ∀ other ≤ position + 1, left[other]? = right[other]?) :
    LacksOperand operandBefore left position ↔ LacksOperand operandBefore right position := by
  have before := operand_left_of_congr operandBefore left right position
    (fun other below => same other (by omega))
  rw [LacksOperand, LacksOperand, operandAt, operandAt, before, same position (by omega),
    same (position + 1) (by omega)]

theorem repeats_operand_congr (operandBefore : Bool) (left right : List (Element ι))
    (position : Nat) (same : ∀ other ≤ position, left[other]? = right[other]?) :
    RepeatsOperand operandBefore left position ↔ RepeatsOperand operandBefore right position := by
  have before := operand_left_of_congr operandBefore left right position
    (fun other below => same other (by omega))
  rw [RepeatsOperand, RepeatsOperand, operandAt, operandAt, before, same position (by omega)]

theorem operand_at_iff (elements : List (Element ι)) (position : Nat) :
    operandAt elements position = true ↔
      ∃ element, elements[position]? = some element ∧ element.isOperand = true :=
  Option.any_eq_true _ _

theorem operand_at_checked (elements : List (Element ι)) (position : Nat) (operator : Element ι)
    (found : elements[position]? = some operator) (checked : operator.isCheckedOperator = true) :
    operandAt elements position = false := by
  rw [operandAt, found, Option.any_some]
  apply Bool.eq_false_of_not_eq_true
  intro operand
  rw [operator.operand_not_checked operand] at checked
  cases checked

theorem lt_of_found_in_take (elements : List (Element ι)) (length position : Nat)
    (element : Element ι) (found : (elements.take length)[position]? = some element) :
    position < length := by
  have bound := (List.getElem?_eq_some_iff.mp found).1
  rw [List.length_take] at bound
  omega

/-- The first position of a kind is the first one of another kind as well if it is of that kind and
nothing in front of it becomes so. -/
theorem is_least_transfer (wrong other : Nat → Prop) (position : Nat)
    (least : IsLeast {place | wrong place} position) (still : other position)
    (earlier : ∀ place < position, other place → wrong place) :
    IsLeast {place | other place} position := by
  refine ⟨still, ?_⟩
  intro place broken
  by_contra inFront
  have before : place < position := Nat.lt_of_not_le inFront
  exact inFront (least.2 (earlier place before broken))

/-- In front of the first operator that lacks an operand, none does so even if the list ends
there. -/
theorem lacks_operand_in_front (operandBefore : Bool) (elements : List (Element ι))
    (position : Nat)
    (least : IsLeast {other | LacksOperand operandBefore elements other} position)
    (other : Nat) : ¬LacksOperand operandBefore (elements.take position) other := by
  intro lacks
  rcases lacks with ⟨element, found, checked, alone⟩
  have inside := lt_of_found_in_take elements position other element found
  have broken : LacksOperand operandBefore elements other := by
    by_cases neighbour : other + 1 < position
    · apply (lacks_operand_congr operandBefore (elements.take position) elements other ?_).mp
      · exact ⟨element, found, checked, alone⟩
      · intro place near
        exact List.getElem?_take_of_lt (by omega)
    · -- The element cut off behind it is the operator at fault, which was no operand for it.
      have behind : other + 1 = position := by omega
      rcases least.1 with ⟨operator, held, checkedBehind, -⟩
      rw [List.getElem?_take_of_lt inside] at found
      refine ⟨element, found, checked, Or.inl ?_⟩
      rw [behind]
      exact operand_at_checked elements position operator held checkedBehind
  have bound := least.2 broken
  omega

theorem lacks_operand_up_to (operandBefore : Bool) (elements : List (Element ι)) (position : Nat)
    (least : IsLeast {other | LacksOperand operandBefore elements other} position) :
    IsLeast {other | LacksOperand operandBefore (elements.take (position + 1)) other} position := by
  have inside : ∀ place ≤ position, (elements.take (position + 1))[place]? = elements[place]? := by
    intro place near
    exact List.getElem?_take_of_lt (by omega)
  apply is_least_transfer _ _ position least
  · rcases least.1 with ⟨operator, found, checked, -⟩
    refine ⟨operator, ?_, checked, Or.inl ?_⟩
    · rw [inside position (Nat.le_refl position)]
      exact found
    · rw [operandAt, List.getElem?_take_eq_none (Nat.le_refl _)]
      rfl
  · intro other before lacks
    exact (lacks_operand_congr operandBefore _ elements other
      (fun place near => inside place (by omega))).mp lacks

theorem repeats_operand_in_front (operandBefore : Bool) (elements : List (Element ι))
    (position : Nat)
    (least : IsLeast {other | RepeatsOperand operandBefore elements other} position)
    (other : Nat) : ¬RepeatsOperand operandBefore (elements.take position) other := by
  intro repeats
  have inside : other < position := by
    rcases (operand_at_iff _ other).mp repeats.1 with ⟨element, found, -⟩
    exact lt_of_found_in_take elements position other element found
  have broken := (repeats_operand_congr operandBefore _ elements other
    (fun place near => List.getElem?_take_of_lt (by omega))).mp repeats
  have bound := least.2 broken
  omega

/-- Whatever follows an operand that stands right behind another, the two stay where they are. -/
theorem repeats_operand_up_to (operandBefore : Bool) (elements more : List (Element ι))
    (position : Nat)
    (least : IsLeast {other | RepeatsOperand operandBefore elements other} position) :
    IsLeast {other | RepeatsOperand operandBefore (elements.take (position + 1) ++ more) other}
      position := by
  have held : position < elements.length := by
    rcases (operand_at_iff elements position).mp least.1.1 with ⟨element, found, -⟩
    exact (List.getElem?_eq_some_iff.mp found).1
  have inside : ∀ place ≤ position,
      (elements.take (position + 1) ++ more)[place]? = elements[place]? := by
    intro place near
    rw [List.getElem?_append_left (by rw [List.length_take]; omega)]
    exact List.getElem?_take_of_lt (by omega)
  have alike : ∀ other ≤ position,
      (RepeatsOperand operandBefore (elements.take (position + 1) ++ more) other ↔
        RepeatsOperand operandBefore elements other) := by
    intro other near
    exact repeats_operand_congr operandBefore _ elements other
      (fun place below => inside place (by omega))
  apply is_least_transfer _ _ position least
  · exact (alike position (Nat.le_refl position)).mpr least.1
  · intro other before repeats
    exact (alike other (Nat.le_of_lt before)).mp repeats

/-- A check that fails does so at the first break. Of operators without the operands they want it
reports the first one; the elements in front of it pass the check, and those up to it fail it at
the same place. So it is with operands right behind others, whatever comes after the first. -/
theorem first_break_exact (elements : List (Element ι)) (position : Nat) :
    (firstUnsurrounded elements = some position →
      IsLeast {other | LacksOperand false elements other} position ∧
      firstUnsurrounded (elements.take position) = none ∧
      firstUnsurrounded (elements.take (position + 1)) = some position) ∧
    (firstConsecutive elements = some position →
      1 ≤ position ∧ IsLeast {other | RepeatsOperand false elements other} position ∧
      firstConsecutive (elements.take position) = none ∧
      ∀ more : List (Element ι),
        firstConsecutive (elements.take (position + 1) ++ more) = some position) := by
  constructor
  · intro failed
    have least := ((first_unsurrounded_reports false elements).eq_some_iff position).mp failed
    refine ⟨least, ?_, ?_⟩
    · apply (first_unsurrounded_reports false (elements.take position)).eq_none_iff.mpr
      exact lacks_operand_in_front false elements position least
    · apply ((first_unsurrounded_reports false _).eq_some_iff position).mpr
      exact lacks_operand_up_to false elements position least
  · intro failed
    have least := ((first_consecutive_reports false elements).eq_some_iff position).mp failed
    refine ⟨?_, least, ?_, ?_⟩
    · cases position with
      | zero => cases least.1.2
      | succ before => exact Nat.succ_pos before
    · apply (first_consecutive_reports false (elements.take position)).eq_none_iff.mpr
      exact repeats_operand_in_front false elements position least
    · intro more
      apply ((first_consecutive_reports false _).eq_some_iff position).mpr
      exact repeats_operand_up_to false elements more position least

def brokenTwice : List Shape :=
  [⟨.letter, "a", [], ()⟩, ⟨.operator, "*", [], ()⟩, ⟨.letter, "b", [], ()⟩,
    ⟨.letter, "c", [], ()⟩, ⟨.operator, "+", [], ()⟩, ⟨.operator, "-", [], ()⟩,
    ⟨.letter, "d", [], ()⟩]

theorem first_break_exact_twice :
    firstUnsurrounded brokenTwice = some 4 ∧
      firstUnsurrounded (brokenTwice.take 4) = none ∧
      firstUnsurrounded (brokenTwice.take 5) = some 4 ∧
      firstConsecutive brokenTwice = some 3 ∧
      firstConsecutive (brokenTwice.take 3) = none ∧
      firstConsecutive (brokenTwice.take 4 ++ brokenTwice) = some 3 := by
  have lacking : firstUnsurrounded brokenTwice = some 4 := by decide
  have repeating : firstConsecutive brokenTwice = some 3 := by decide
  have operators := (first_break_exact brokenTwice 4).1 lacking
  have operands := (first_break_exact brokenTwice 3).2 repeating
  exact ⟨lacking, operators.2.1, operators.2.2, repeating, operands.2.2.1,
    operands.2.2.2 brokenTwice⟩

end Adjacency

end InlineFormula
