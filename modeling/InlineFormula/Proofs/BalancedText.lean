import InlineFormula.Proofs.BracketStack
import InlineFormula.Settings

/-!
Balanced texts. They are given by a grammar over the pairs of the bracket setting, without a
stack: nothing, or an ordinary character, or a bracketed balanced text, each followed by a
balanced text. The scan finds no fault in exactly these.
-/

set_option autoImplicit false

namespace InlineFormula

/-- An opener stands at an even place of the setting with its closer right behind it, and at no
even place after that. -/
def Brackets.Joins (setting : List Char) (opener closer : Char) : Prop :=
  ∃ place, setting[2 * place]? = some opener ∧ setting[2 * place + 1]? = some closer ∧
    ∀ later, place < later → setting[2 * later]? ≠ some opener

/-- Texts in which every bracket is joined to its partner, `joins` telling which closer belongs
to an opener. -/
inductive Balanced (joins : Char → Char → Prop) : List Char → Prop where
  | nil : Balanced joins []
  | plain (char : Char) (rest : List Char) (opens : ∀ closer, ¬joins char closer)
      (closes : ∀ opener, ¬joins opener char) (behind : Balanced joins rest) :
      Balanced joins (char :: rest)
  | nested (opener closer : Char) (inner rest : List Char) (joined : joins opener closer)
      (inside : Balanced joins inner) (behind : Balanced joins rest) :
      Balanced joins (opener :: inner ++ closer :: rest)

/-- What is left to read when these closers are waited for, innermost first: balanced texts with
the closers between them. -/
def Unwinds (joins : Char → Char → Prop) : List Char → List Char → Prop
  | [], text => Balanced joins text
  | closer :: outer, text =>
      ∃ inner rest, text = inner ++ closer :: rest ∧ Balanced joins inner ∧
        Unwinds joins outer rest

theorem Unwinds.prepend (joins : Char → Char → Prop) (front : List Char)
    (grows : ∀ text, Balanced joins text → Balanced joins (front ++ text))
    (waiting text : List Char) (unwinds : Unwinds joins waiting text) :
    Unwinds joins waiting (front ++ text) := by
  cases waiting with
  | nil => exact grows text unwinds
  | cons closer outer =>
      obtain ⟨inner, rest, rfl, balanced, others⟩ := unwinds
      exact ⟨front ++ inner, rest, by simp, grows inner balanced, others⟩

namespace Brackets

theorem pair_up_at (setting : List Char) (paired : setting.length % 2 = 0) (place : Nat)
    (pair : Char × Char) :
    (pairUp setting)[place]? = some pair ↔
      setting[2 * place]? = some pair.1 ∧ setting[2 * place + 1]? = some pair.2 := by
  induction setting using pairUp.induct generalizing place with
  | case1 opener closer rest induction =>
      have shorter : rest.length % 2 = 0 := by
        simp only [List.length_cons] at paired
        omega
      obtain ⟨first, second⟩ := pair
      cases place with
      | zero => simp [pairUp]
      | succ place => simpa [pairUp, Nat.mul_succ] using induction shorter place
  | case2 rest short =>
      cases rest with
      | nil => simp [pairUp]
      | cons first behind =>
          cases behind with
          | nil => simp at paired
          | cons second back => exact absurd rfl (short first second back)

theorem lookup_reverse_eq_some_iff (pairs : List (Char × Char)) (opener closer : Char) :
    pairs.reverse.lookup opener = some closer ↔
      ∃ place : Nat, pairs[place]? = some (opener, closer) ∧
        ∀ later, place < later → ∀ pair : Char × Char, pairs[later]? = some pair →
          pair.1 ≠ opener := by
  rw [List.lookup_eq_some_iff]
  constructor
  · rintro ⟨behind, before, split, others⟩
    have forward : pairs = before.reverse ++ (opener, closer) :: behind.reverse := by
      simpa using congrArg List.reverse split
    refine ⟨before.reverse.length, by rw [forward, List.getElem?_append_right (by simp)]; simp, ?_⟩
    intro later after pair found same
    have among : pair ∈ behind.reverse := by
      obtain ⟨gap, rfl⟩ : ∃ gap, later = before.reverse.length + (gap + 1) :=
        ⟨later - before.reverse.length - 1, by omega⟩
      rw [forward, List.getElem?_append_right (Nat.le_add_right _ _), Nat.add_sub_cancel_left,
        List.getElem?_cons_succ] at found
      exact List.mem_of_getElem? found
    have unlike := others pair (List.mem_reverse.mp among)
    simp [same] at unlike
  · rintro ⟨place, found, others⟩
    obtain ⟨bound, here⟩ := List.getElem?_eq_some_iff.mp found
    have split : pairs = pairs.take place ++ (opener, closer) :: pairs.drop (place + 1) := by
      rw [← here, ← List.drop_eq_getElem_cons bound, List.take_append_drop]
    refine ⟨(pairs.drop (place + 1)).reverse, (pairs.take place).reverse, ?_, ?_⟩
    · conv => lhs; rw [split]
      simp
    · intro pair member
      obtain ⟨gap, later⟩ := List.mem_iff_getElem?.mp (List.mem_reverse.mp member)
      rw [List.getElem?_drop] at later
      have unlike := others _ (by omega) pair later
      simpa using Ne.symm unlike

/-- The last pair with an opener gives its closer, as in a table whose entries are replaced. -/
theorem closer_eq_some_iff_joins (setting : String) (paired : setting.length % 2 = 0)
    (opener closer : Char) :
    (ofString setting).closer? opener = some closer ↔ Joins setting.toList opener closer := by
  have even : setting.toList.length % 2 = 0 := by rwa [String.length_toList]
  rw [closer?, ofString, lookup_reverse_eq_some_iff, Joins]
  refine exists_congr fun place => ?_
  rw [pair_up_at _ even, and_assoc]
  refine and_congr_right fun _ => and_congr_right fun _ => forall_congr' fun later => ?_
  refine imp_congr_right fun _ => ?_
  constructor
  · intro others found
    -- The setting has pairs throughout, so an opener at an even place has a closer behind it.
    have bound : 2 * later + 1 < setting.toList.length := by
      have := (List.getElem?_eq_some_iff.mp found).1
      omega
    exact others (opener, setting.toList[2 * later + 1])
      ((pair_up_at _ even later _).mpr ⟨found, List.getElem?_eq_getElem bound⟩) rfl
  · intro absent pair found same
    exact absent (same ▸ ((pair_up_at _ even later pair).mp found).1)

/-- Openers are no closers, so that each bracket has one part only. -/
def Apart (joins : Char → Char → Prop) : Prop :=
  ∀ opener closer, joins opener closer → ∀ other, ¬joins closer other

section Grammar

variable (brackets : Brackets) (joins : Char → Char → Prop)
  (reads : ∀ opener closer, brackets.closer? opener = some closer ↔ joins opener closer)

include reads

theorem is_bracket_iff_joins (char : Char) :
    brackets.IsBracket char ↔ (∃ closer, joins char closer) ∨ ∃ opener, joins opener char := by
  rw [IsBracket, Option.ne_none_iff_exists', is_closer_iff]
  simp only [reads]

theorem stack_after_balanced (apart : Apart joins) (text : List Char)
    (balanced : Balanced joins text) (waiting : List Char) :
    brackets.stackAfter waiting text = some waiting := by
  induction balanced generalizing waiting with
  | nil => rfl
  | plain char rest opens closes behind induction =>
      have ordinary : ¬brackets.IsBracket char := by
        rw [is_bracket_iff_joins brackets joins reads]
        simp only [opens, closes, exists_false, or_self, not_false_eq_true]
      rw [stack_after_cons, brackets.meet_plain waiting char ordinary]
      exact induction waiting
  | nested opener closer inner rest joined inside behind inner_ih rest_ih =>
      have paired := (reads opener closer).mpr joined
      have ends : brackets.closer? closer = none := by
        rw [Option.eq_none_iff_forall_not_mem]
        intro other found
        exact apart opener closer joined other ((reads closer other).mp found)
      have opened : brackets.meet waiting opener = some (closer :: waiting) := by
        simp only [meet, paired]
      rw [List.cons_append, stack_after_cons, opened, Option.bind_some, stack_after_append,
        inner_ih, Option.bind_some, stack_after_cons,
        brackets.meet_closer waiting opener closer paired ends]
      exact rest_ih waiting

theorem unwinds_of_stack_after (waiting text : List Char)
    (emptied : brackets.stackAfter waiting text = some []) : Unwinds joins waiting text := by
  induction text generalizing waiting with
  | nil =>
      cases emptied
      exact .nil
  | cons char rest induction =>
      rw [stack_after_cons] at emptied
      cases opens : brackets.closer? char with
      | some closer =>
          simp only [meet, opens, Option.bind_some] at emptied
          obtain ⟨inner, behind, rfl, inside, others⟩ := induction _ emptied
          have joined := (reads char closer).mp opens
          have whole := Unwinds.prepend joins (char :: inner ++ [closer]) (fun text balanced => by
            simpa using Balanced.nested char closer inner text joined inside balanced)
            waiting behind others
          simpa using whole
      | none =>
          have opensNothing : ∀ closer, ¬joins char closer := by
            intro closer joined
            rw [(reads char closer).mpr joined] at opens
            cases opens
          cases closes : brackets.isCloser char with
          | true =>
              -- The closer is the innermost one waited for, with nothing left before it.
              cases waiting with
              | nil => simp [meet, opens, closes] at emptied
              | cons innermost outer =>
                  by_cases same : innermost = char
                  · subst same
                    simp only [meet, opens, closes, if_true, Option.bind_some] at emptied
                    exact ⟨[], rest, rfl, .nil, induction outer emptied⟩
                  · simp [meet, opens, closes, same] at emptied
          | false =>
              have closesNothing : ∀ opener, ¬joins opener char := by
                intro opener joined
                have found := (reads opener char).mpr joined
                rw [(brackets.is_closer_iff char).mpr ⟨opener, found⟩] at closes
                cases closes
              have skipped : brackets.meet waiting char = some waiting := by
                simp [meet, opens, closes]
              rw [skipped, Option.bind_some] at emptied
              exact Unwinds.prepend joins [char]
                (fun text => Balanced.plain char text opensNothing closesNothing)
                waiting rest (induction waiting emptied)

theorem first_fault_eq_none_iff_of_reads (apart : Apart joins) (text : List Char) :
    brackets.firstFault text = none ↔ Balanced joins text := by
  rw [first_fault_eq_none_iff]
  constructor
  · exact unwinds_of_stack_after brackets joins reads [] text
  · intro balanced
    exact stack_after_balanced brackets joins reads apart text balanced []

end Grammar

end Brackets

/-- The check of brackets accepts the balanced texts and no others. -/
theorem Settings.brackets_accepted_iff_balanced (settings : Settings)
    (paired : settings.brackets.length % 2 = 0)
    (apart : Brackets.Apart (Brackets.Joins settings.brackets.toList)) (text : String) :
    (Brackets.ofString settings.brackets).firstFault text.toList = none ↔
      Balanced (Brackets.Joins settings.brackets.toList) text.toList :=
  Brackets.first_fault_eq_none_iff_of_reads _ _
    (Brackets.closer_eq_some_iff_joins settings.brackets paired) apart text.toList

/-- Here the first pair is replaced by the third, which shares its closer with the second. -/
theorem brackets_accepted_iff_balanced_shared :
    ("(><)()".length % 2 = 0 ∧ Brackets.Apart (Brackets.Joins "(><)()".toList)) ∧
      ((Brackets.ofString "(><)()").firstFault "<(>x))".toList = none ↔
        Balanced (Brackets.Joins "(><)()".toList) "<(>x))".toList) ∧
      (Brackets.ofString "(><)()").firstFault "<(>x))".toList = none := by
  have paired : "(><)()".length % 2 = 0 := by decide
  have apart : Brackets.Apart (Brackets.Joins "(><)()".toList) := by
    have among : ∀ opener closer, Brackets.Joins "(><)()".toList opener closer →
        (opener, closer) ∈ [('(', '>'), ('<', ')'), ('(', ')')] := by
      intro opener closer joined
      have found := (Brackets.closer_eq_some_iff_joins _ paired opener closer).mpr joined
      obtain ⟨place, listed, _⟩ := (Brackets.lookup_reverse_eq_some_iff _ _ _).mp found
      exact List.mem_of_getElem? listed
    intro opener closer joined other again
    have closes := among opener closer joined
    have opens := among closer other again
    simp only [List.mem_cons, Prod.mk.injEq, List.not_mem_nil, or_false] at closes opens
    obtain ⟨-, rfl⟩ | ⟨-, rfl⟩ | ⟨-, rfl⟩ := closes <;> simp at opens
  exact ⟨⟨paired, apart⟩,
    Settings.brackets_accepted_iff_balanced { brackets := "(><)()" } paired apart "<(>x))",
    by decide⟩

end InlineFormula
