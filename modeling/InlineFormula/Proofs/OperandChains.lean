import InlineFormula.Check.Adjacency

/-!
Chains of operands. Both checks of neighbours look at two elements at a time; together they accept
exactly those lists whose pieces between separators are operands joined by operators, with a sign
allowed in front.
-/

set_option autoImplicit false

namespace InlineFormula

variable {ι : Type}

namespace Element

/-- Elements that are neither operands nor checked operators part the others from each other. -/
def isSeparator (element : Element ι) : Bool :=
  !element.isOperand && !element.isCheckedOperator

theorem operand_not_checked (element : Element ι) (operand : element.isOperand = true) :
    element.isCheckedOperator = false := by
  have other : element.kind ≠ .operator := by
    intro same
    rw [isOperand, same] at operand
    cases operand
  simp [isCheckedOperator, other]

end Element

namespace Adjacency

inductive Chain : List (Element ι) → Prop where
  | single (element : Element ι) (operand : element.isOperand = true) : Chain [element]
  | joined (element operator : Element ι) (rest : List (Element ι))
      (operand : element.isOperand = true) (checked : operator.isCheckedOperator = true)
      (later : Chain rest) : Chain (element :: operator :: rest)

inductive Expression : List (Element ι) → Prop where
  | empty : Expression []
  | plain (piece : List (Element ι)) (chain : Chain piece) : Expression piece
  | signed (sign : Element ι) (rest : List (Element ι))
      (checked : sign.isCheckedOperator = true) (signs : sign.isSign = true)
      (chain : Chain rest) : Expression (sign :: rest)

inductive Continuation : List (Element ι) → Prop where
  | done : Continuation []
  | more (operator : Element ι) (rest : List (Element ι))
      (checked : operator.isCheckedOperator = true) (chain : Chain rest) :
      Continuation (operator :: rest)

theorem chain_cons_iff (element : Element ι) (rest : List (Element ι)) :
    Chain (element :: rest) ↔ element.isOperand = true ∧ Continuation rest := by
  constructor
  · intro chain
    cases chain with
    | single _ operand => exact ⟨operand, .done⟩
    | joined _ operator rest operand checked later =>
        exact ⟨operand, .more operator rest checked later⟩
  · rintro ⟨operand, continued⟩
    cases continued with
    | done => exact .single element operand
    | more operator rest checked chain => exact .joined element operator rest operand checked chain

/-- A piece fits by itself, or behind an operand that belongs to it. -/
def FitsBehind (operandBefore : Bool) (piece : List (Element ι)) : Prop :=
  if operandBefore then Continuation piece else Expression piece

theorem fits_behind_nil (operandBefore : Bool) :
    FitsBehind operandBefore ([] : List (Element ι)) := by
  cases operandBefore with
  | false => exact Expression.empty
  | true => exact Continuation.done

theorem fits_behind_none (piece : List (Element ι)) :
    FitsBehind false piece ↔ Expression piece := Iff.rfl

theorem fits_behind_operand (operandBefore : Bool) (element : Element ι)
    (rest : List (Element ι)) (operand : element.isOperand = true) :
    FitsBehind operandBefore (element :: rest) ↔ operandBefore = false ∧ FitsBehind true rest := by
  have unchecked := element.operand_not_checked operand
  cases operandBefore with
  | false =>
      show Expression (element :: rest) ↔ _ ∧ Continuation rest
      constructor
      · intro expression
        cases expression with
        | plain _ chain => exact ⟨rfl, ((chain_cons_iff element rest).mp chain).2⟩
        | signed _ _ checked =>
            rw [unchecked] at checked
            cases checked
      · rintro ⟨-, continued⟩
        exact .plain _ ((chain_cons_iff element rest).mpr ⟨operand, continued⟩)
  | true =>
      constructor
      · intro continued
        cases continued with
        | more _ _ checked =>
            rw [unchecked] at checked
            cases checked
      · rintro ⟨never, -⟩
        cases never

theorem fits_behind_operator (operandBefore : Bool) (element : Element ι)
    (rest : List (Element ι)) (checked : element.isCheckedOperator = true) :
    FitsBehind operandBefore (element :: rest) ↔
      (operandBefore = true ∨ element.isSign = true) ∧ Chain rest := by
  cases operandBefore with
  | false =>
      show Expression (element :: rest) ↔ _
      constructor
      · intro expression
        cases expression with
        | plain _ chain =>
            have operand := ((chain_cons_iff element rest).mp chain).1
            rw [element.operand_not_checked operand] at checked
            cases checked
        | signed _ _ _ signs chain => exact ⟨.inr signs, chain⟩
      · rintro ⟨before | signs, chain⟩
        · cases before
        · exact .signed element rest checked signs chain
  | true =>
      show Continuation (element :: rest) ↔ _
      constructor
      · intro continued
        cases continued with
        | more _ _ _ chain => exact ⟨.inl rfl, chain⟩
      · rintro ⟨-, chain⟩
        exact .more element rest checked chain

/-- A piece that starts with an operand has no sign in front. -/
theorem chain_iff (piece : List (Element ι)) :
    Chain piece ↔ startsWithOperand piece = true ∧ FitsBehind false piece := by
  cases piece with
  | nil =>
      constructor
      · intro chain
        cases chain
      · rintro ⟨starts, -⟩
        cases starts
  | cons element rest =>
      rw [chain_cons_iff, startsWithOperand]
      apply and_congr_right
      intro operand
      rw [fits_behind_operand false element rest operand]
      exact (and_iff_right rfl).symm

theorem starts_with_operand_split (elements piece : List (Element ι))
    (pieces : List (List (Element ι)))
    (split : elements.splitOnP Element.isSeparator = piece :: pieces) :
    startsWithOperand elements = startsWithOperand piece := by
  cases elements with
  | nil =>
      cases split
      rfl
  | cons element rest =>
      rw [List.splitOnP_cons_eq_if_modifyHead] at split
      by_cases separates : element.isSeparator = true
      · rw [if_pos separates] at split
        cases split
        rw [Element.isSeparator, Bool.and_eq_true, Bool.not_eq_true'] at separates
        exact separates.1
      · rw [if_neg separates] at split
        obtain ⟨first, others, parted⟩ := List.exists_cons_of_ne_nil
          (List.splitOnP_ne_nil Element.isSeparator rest)
        rw [parted] at split
        cases split
        rfl

/-- Both checks pass behind an element that is an operand or is none. -/
def BothPass (operandBefore : Bool) (elements : List (Element ι)) : Prop :=
  firstUnsurroundedAfter operandBefore elements = none ∧
    firstConsecutiveAfter operandBefore elements = none

theorem both_pass_cons (operandBefore : Bool) (element : Element ι) (rest : List (Element ι)) :
    BothPass operandBefore (element :: rest) ↔
      surrounded operandBefore element rest = true ∧
        ¬(operandBefore = true ∧ element.isOperand = true) ∧ BothPass element.isOperand rest := by
  unfold BothPass
  rw [firstUnsurroundedAfter, firstConsecutiveAfter]
  by_cases around : surrounded operandBefore element rest = true
  · rw [if_pos around, Option.map_eq_none_iff]
    by_cases repeated : operandBefore = true ∧ element.isOperand = true
    · rw [if_pos (Bool.and_eq_true_iff.mpr repeated)]
      simp [repeated]
    · rw [if_neg (mt Bool.and_eq_true_iff.mp repeated), Option.map_eq_none_iff]
      simp [around, repeated]
  · rw [if_neg around]
    simp [around]

/-- The checks see no further than the next separator: what they say of a list is what holds of
its pieces, of which only the first may continue what stands before the list. -/
theorem both_pass_iff_pieces (operandBefore : Bool) (elements piece : List (Element ι))
    (pieces : List (List (Element ι)))
    (split : elements.splitOnP Element.isSeparator = piece :: pieces) :
    BothPass operandBefore elements ↔
      FitsBehind operandBefore piece ∧ ∀ other ∈ pieces, Expression other := by
  induction elements generalizing operandBefore piece pieces with
  | nil =>
      cases split
      constructor
      · intro _
        exact ⟨fits_behind_nil operandBefore, by simp⟩
      · intro _
        exact ⟨rfl, rfl⟩
  | cons element rest induction =>
      obtain ⟨first, others, parted⟩ := List.exists_cons_of_ne_nil
        (List.splitOnP_ne_nil Element.isSeparator rest)
      rw [List.splitOnP_cons_eq_if_modifyHead, parted] at split
      rw [both_pass_cons, induction element.isOperand first others parted, surrounded,
        starts_with_operand_split rest first others parted]
      by_cases operand : element.isOperand = true
      · have unchecked := element.operand_not_checked operand
        rw [if_neg (by simp [Element.isSeparator, operand])] at split
        cases split
        rw [fits_behind_operand operandBefore element first operand, operand, unchecked]
        simp [and_assoc]
      · rw [Bool.not_eq_true] at operand
        by_cases checked : element.isCheckedOperator = true
        · rw [if_neg (by simp [Element.isSeparator, checked])] at split
          cases split
          rw [fits_behind_operator operandBefore element first checked, chain_iff, operand,
            checked]
          simp [and_assoc, and_left_comm]
        · rw [Bool.not_eq_true] at checked
          rw [if_pos (by simp [Element.isSeparator, operand, checked])] at split
          cases split
          rw [operand, checked]
          simp [fits_behind_nil, fits_behind_none]

/-- Both checks accept a list of elements exactly if each piece between separators is empty, or an
operand with any number of operators and operands behind it and possibly a sign in front. -/
theorem checks_accept_iff_expressions (elements : List (Element ι)) :
    firstUnsurrounded elements = none ∧ firstConsecutive elements = none ↔
      ∀ piece ∈ elements.splitOnP Element.isSeparator, Expression piece := by
  obtain ⟨first, others, parted⟩ := List.exists_cons_of_ne_nil
    (List.splitOnP_ne_nil Element.isSeparator elements)
  rw [parted, List.forall_mem_cons]
  exact both_pass_iff_pieces false elements first others parted

end Adjacency

end InlineFormula
