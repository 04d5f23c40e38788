import InlineFormula.Proofs.BalancedText
import Mathlib.Logic.Basic

/-!
The position of the bracket at fault. A scan that is stopped by a closer stops at the first place
from which no further text could help; a scan that comes to the end with brackets left open
reports the one behind the longest balanced front of the text.
-/

set_option autoImplicit false

namespace InlineFormula

def Completable (joins : Char → Char → Prop) (text : List Char) : Prop :=
  ∃ more, Balanced joins (text ++ more)

namespace Brackets

/-- The part of a setting that consists of pairs; a character behind them counts for nothing. -/
def paired (setting : List Char) : List Char := setting.take (2 * (setting.length / 2))

theorem paired_even (setting : List Char) : (paired setting).length % 2 = 0 := by
  rw [paired, List.length_take]
  omega

theorem pair_up_paired (setting : List Char) : pairUp (paired setting) = pairUp setting := by
  induction setting using pairUp.induct with
  | case1 opener closer rest induction =>
      have longer : 2 * ((rest.length + 1 + 1) / 2) = 2 * (rest.length / 2) + 1 + 1 := by omega
      rw [paired, List.length_cons, List.length_cons, longer, List.take_succ_cons,
        List.take_succ_cons, pairUp, pairUp, ← paired, induction]
  | case2 rest short =>
      cases rest with
      | nil => rfl
      | cons first behind =>
          cases behind with
          | nil => simp [paired, pairUp]
          | cons second back => exact absurd rfl (short first second back)

theorem closer_eq_some_iff_joins_paired (setting : String) (opener closer : Char) :
    (ofString setting).closer? opener = some closer ↔
      Joins (paired setting.toList) opener closer := by
  have even : (String.ofList (paired setting.toList)).length % 2 = 0 := by
    rw [← String.length_toList, String.toList_ofList]
    exact paired_even setting.toList
  have same := closer_eq_some_iff_joins (String.ofList (paired setting.toList)) even opener closer
  rw [ofString, String.toList_ofList, pair_up_paired] at same
  exact same

theorem apart_of_closers (setting : String)
    (ends : ∀ pair ∈ (ofString setting).pairs, (ofString setting).closer? pair.2 = none) :
    Apart (Joins (paired setting.toList)) := by
  intro opener closer joined other again
  have reads := closer_eq_some_iff_joins_paired setting
  obtain ⟨place, listed, -⟩ :=
    (lookup_reverse_eq_some_iff _ _ _).mp ((reads opener closer).mpr joined)
  have none_ := ends (opener, closer) (List.mem_of_getElem? listed)
  rw [(reads closer other).mpr again] at none_
  cases none_

/-- A closer stands here, and the text before it is the longest front that can be completed;
whatever text follows the closer, it is reported. -/
structure HopelessAt (brackets : Brackets) (joins : Char → Char → Prop) (text : List Char)
    (index : Nat) : Prop where
  closes : ∃ opener closer, text[index]? = some closer ∧ joins opener closer
  completable : ∀ length, length ≤ text.length →
    (Completable joins (text.take length) ↔ length ≤ index)
  reported : ∀ more, brackets.firstFault (text.take (index + 1) ++ more) = some index

/-- The text can be completed, and an opener stands here, behind the longest balanced front. -/
structure UnclosedAt (joins : Char → Char → Prop) (text : List Char) (index : Nat) : Prop where
  completable : Completable joins text
  opens : ∃ opener closer, text[index]? = some opener ∧ joins opener closer
  balanced : Balanced joins (text.take index)
  longest : ∀ front, front <+: text → Balanced joins front → front.length ≤ index

section Reports

variable {brackets : Brackets} {joins : Char → Char → Prop} {text : List Char} {index : Nat}

theorem HopelessAt.bound (hopeless : brackets.HopelessAt joins text index) :
    index < text.length := by
  obtain ⟨-, closer, stands, -⟩ := hopeless.closes
  exact (List.getElem?_eq_some_iff.mp stands).1

theorem UnclosedAt.bound (unclosed : UnclosedAt joins text index) : index < text.length := by
  obtain ⟨opener, -, stands, -⟩ := unclosed.opens
  exact (List.getElem?_eq_some_iff.mp stands).1

theorem HopelessAt.not_unclosed (hopeless : brackets.HopelessAt joins text index) :
    ¬UnclosedAt joins text index := by
  intro unclosed
  have whole := unclosed.completable
  rw [← List.take_length (l := text)] at whole
  have bound := hopeless.bound
  have within := (hopeless.completable text.length (Nat.le_refl _)).mp whole
  omega

end Reports

section Positions

variable (brackets : Brackets)

def meetAt (waiting : List (Char × Nat)) (position : Nat) (char : Char) :
    Option (List (Char × Nat)) :=
  match brackets.closer? char with
  | some closer => some ((closer, position) :: waiting)
  | none =>
      if brackets.isCloser char then
        match waiting with
        | [] => none
        | (closer, _) :: outer => if closer = char then some outer else none
      else some waiting

/-- A scan stops at the first character that cannot be met. -/
theorem scan_cons (waiting : List (Char × Nat)) (position : Nat) (char : Char)
    (rest : List Char) :
    brackets.scan waiting position (char :: rest) =
      (brackets.meetAt waiting position char).elim (some position) fun next =>
        brackets.scan next (position + 1) rest := by
  conv => lhs; unfold scan
  unfold meetAt
  cases brackets.closer? char with
  | some closer => rfl
  | none =>
      cases brackets.isCloser char with
      | false => rfl
      | true =>
          cases waiting with
          | nil => rfl
          | cons innermost outer => by_cases same : innermost.1 = char <;> simp [same]

theorem meet_at_stack (waiting : List (Char × Nat)) (position : Nat) (char : Char) :
    (brackets.meetAt waiting position char).map (List.map Prod.fst) =
      brackets.meet (waiting.map Prod.fst) char := by
  unfold meetAt meet
  cases brackets.closer? char with
  | some closer => rfl
  | none =>
      cases brackets.isCloser char with
      | false => rfl
      | true =>
          cases waiting with
          | nil => rfl
          | cons innermost outer => by_cases same : innermost.1 = char <;> simp [same]

/-- As long as brackets are open, the outermost of them is the one that was. -/
theorem meet_at_outermost (waiting next : List (Char × Nat)) (position : Nat) (char : Char)
    (met : brackets.meetAt waiting position char = some next) (open_ : waiting ≠ [])
    (openNext : next ≠ []) : next.getLast? = waiting.getLast? := by
  unfold meetAt at met
  cases opens : brackets.closer? char with
  | some closer =>
      rw [opens] at met
      cases met
      exact List.getLast?_cons_of_ne_nil open_
  | none =>
      cases closes : brackets.isCloser char with
      | false =>
          rw [opens, closes] at met
          cases met
          rfl
      | true =>
          cases waiting with
          | nil => exact absurd rfl open_
          | cons innermost outer =>
              by_cases same : innermost.1 = char
              · simp only [opens, closes, same, if_true, Option.some.injEq] at met
                subst met
                exact (List.getLast?_cons_of_ne_nil openNext).symm
              · simp [opens, closes, same] at met

/-- With no bracket open, a character leaves one open only by being its opener. -/
theorem meet_at_first (next : List (Char × Nat)) (position : Nat) (char : Char)
    (met : brackets.meetAt [] position char = some next) (openNext : next ≠ []) :
    ∃ closer, brackets.closer? char = some closer ∧ next = [(closer, position)] := by
  unfold meetAt at met
  cases opens : brackets.closer? char with
  | some closer =>
      rw [opens] at met
      cases met
      exact ⟨closer, rfl, rfl⟩
  | none =>
      cases closes : brackets.isCloser char with
      | false =>
          rw [opens, closes] at met
          cases met
          exact absurd rfl openNext
      | true => simp [opens, closes] at met

/-- Behind the first so many characters comes one that the open brackets do not wait for. -/
def Unmet (waiting text : List Char) (place : Nat) : Prop :=
  ∃ front char rest outer, text = front ++ char :: rest ∧ front.length = place ∧
    brackets.stackAfter waiting front = some outer ∧ brackets.meet outer char = none

def StaysOpen (waiting text : List Char) : Prop :=
  ∀ front, front <+: text → brackets.stackAfter waiting front ≠ some []

/-- Behind the first so many characters all brackets are closed, and then one is opened for
good. -/
def LeftOpen (waiting text : List Char) (place : Nat) : Prop :=
  ∃ front opener rest closer, text = front ++ opener :: rest ∧ front.length = place ∧
    brackets.stackAfter waiting front = some [] ∧ brackets.closer? opener = some closer ∧
    brackets.StaysOpen [closer] rest

section Met

variable (waiting next : List Char) (char : Char) (rest : List Char)
  (met : brackets.meet waiting char = some next)

include met

theorem stack_after_met (text : List Char) :
    brackets.stackAfter waiting (char :: text) = brackets.stackAfter next text := by
  rw [stack_after_cons, met, Option.bind_some]

theorem Unmet.behind (place : Nat) (unmet : brackets.Unmet next rest place) :
    brackets.Unmet waiting (char :: rest) (place + 1) := by
  obtain ⟨front, stopper, back, outer, rfl, rfl, read, stops⟩ := unmet
  refine ⟨char :: front, stopper, back, outer, rfl, rfl, ?_, stops⟩
  rw [brackets.stack_after_met waiting next char met, read]

theorem StaysOpen.behind (open_ : waiting ≠ []) (stays : brackets.StaysOpen next rest) :
    brackets.StaysOpen waiting (char :: rest) := by
  intro front fits
  rcases List.prefix_cons_iff.mp fits with rfl | ⟨shorter, rfl, inside⟩
  · intro emptied
    exact open_ (Option.some.inj emptied)
  · rw [brackets.stack_after_met waiting next char met]
    exact stays shorter inside

theorem LeftOpen.behind (place : Nat) (left : brackets.LeftOpen next rest place) :
    brackets.LeftOpen waiting (char :: rest) (place + 1) := by
  obtain ⟨front, opener, back, closer, rfl, rfl, emptied, opens, stays⟩ := left
  refine ⟨char :: front, opener, back, closer, rfl, rfl, ?_, opens, stays⟩
  rw [brackets.stack_after_met waiting next char met, emptied]

end Met

/-- A scan that finds a fault was stopped by a closer, or came to the end of the text with open
brackets. The outermost of these was open from the start, or is the one behind the last point
at which none was. -/
theorem scan_eq_some_cases (waiting : List (Char × Nat)) (position index : Nat)
    (text : List Char) (found : brackets.scan waiting position text = some index) :
    (∃ place, index = position + place ∧ brackets.Unmet (waiting.map Prod.fst) text place) ∨
      (∃ left, brackets.stackAfter (waiting.map Prod.fst) text = some left) ∧
        (waiting.getLast?.map Prod.snd = some index ∧
            brackets.StaysOpen (waiting.map Prod.fst) text ∨
          ∃ place, index = position + place ∧
            brackets.LeftOpen (waiting.map Prod.fst) text place) := by
  induction text generalizing waiting position with
  | nil =>
      refine .inr ⟨⟨_, rfl⟩, .inl ⟨found, ?_⟩⟩
      intro front fits emptied
      rw [List.prefix_nil.mp fits] at emptied
      have none_ : waiting = [] := List.map_eq_nil_iff.mp (Option.some.inj emptied)
      rw [none_] at found
      cases found
  | cons char rest induction =>
      have asChars := brackets.meet_at_stack waiting position char
      rw [scan_cons] at found
      cases met : brackets.meetAt waiting position char with
      | none =>
          rw [met] at found asChars
          cases found
          exact .inl ⟨0, rfl, [], char, rest, _, rfl, rfl, rfl, asChars.symm⟩
      | some next =>
          rw [met] at found asChars
          have step := asChars.symm
          obtain ⟨place, rfl, unmet⟩ | ⟨⟨left, read⟩, cause⟩ := induction next _ found
          · exact .inl ⟨place + 1, by omega, unmet.behind brackets _ _ char rest step⟩
          · refine .inr ⟨⟨left, ?_⟩, ?_⟩
            · rw [brackets.stack_after_met _ _ char step, read]
            · obtain ⟨last, stays⟩ | ⟨place, rfl, leftOpen⟩ := cause
              · have openNext : next ≠ [] := by
                  rintro rfl
                  cases last
                cases waiting with
                | nil =>
                    obtain ⟨closer, opens, rfl⟩ := brackets.meet_at_first next position char met
                      openNext
                    cases last
                    exact .inr ⟨0, rfl, [], char, rest, closer, rfl, rfl, rfl, opens, stays⟩
                | cons innermost outer =>
                    rw [brackets.meet_at_outermost _ next position char met (by simp)
                      openNext] at last
                    exact .inl ⟨last, stays.behind brackets _ _ char rest step (by simp)⟩
              · exact .inr ⟨place + 1, by omega, leftOpen.behind brackets _ _ char rest step⟩

theorem scan_stops (waiting : List (Char × Nat)) (position : Nat) (front : List Char)
    (char : Char) (rest outer : List Char)
    (read : brackets.stackAfter (waiting.map Prod.fst) front = some outer)
    (stops : brackets.meet outer char = none) :
    brackets.scan waiting position (front ++ char :: rest) = some (position + front.length) := by
  induction front generalizing waiting position with
  | nil =>
      cases read
      have asChars := brackets.meet_at_stack waiting position char
      rw [stops, Option.map_eq_none_iff] at asChars
      rw [List.nil_append, scan_cons, asChars]
      rfl
  | cons first behind induction =>
      have asChars := brackets.meet_at_stack waiting position first
      rw [stack_after_cons] at read
      cases met : brackets.meetAt waiting position first with
      | none =>
          rw [met] at asChars
          rw [← asChars] at read
          cases read
      | some next =>
          rw [met] at asChars
          rw [← asChars] at read
          rw [List.cons_append, scan_cons, met]
          have stopped := induction next (position + 1) read
          rw [Option.elim_some, stopped, List.length_cons]
          congr 1
          omega

end Positions

section Completion

variable (brackets : Brackets) (joins : Char → Char → Prop)
  (reads : ∀ opener closer, brackets.closer? opener = some closer ↔ joins opener closer)
  (apart : Apart joins)

theorem meet_eq_none_iff (waiting : List Char) (char : Char) :
    brackets.meet waiting char = none ↔
      brackets.closer? char = none ∧ brackets.isCloser char = true ∧
        waiting.head? ≠ some char := by
  unfold meet
  cases brackets.closer? char with
  | some closer => simp
  | none =>
      cases brackets.isCloser char with
      | false => simp
      | true =>
          cases waiting with
          | nil => simp
          | cons innermost outer => by_cases same : innermost = char <;> simp [same]

theorem meet_waits (waiting next : List Char) (char : Char)
    (met : brackets.meet waiting char = some next) (closer : Char) (waits : closer ∈ next) :
    closer ∈ waiting ∨ brackets.closer? char = some closer := by
  unfold meet at met
  cases opens : brackets.closer? char with
  | some own =>
      rw [opens] at met
      cases met
      rcases List.mem_cons.mp waits with rfl | outer
      · exact .inr rfl
      · exact .inl outer
  | none =>
      cases closes : brackets.isCloser char with
      | false =>
          rw [opens, closes] at met
          cases met
          exact .inl waits
      | true =>
          cases waiting with
          | nil => simp [opens, closes] at met
          | cons innermost outer =>
              by_cases same : innermost = char
              · simp only [opens, closes, same, if_true, Option.some.injEq] at met
                subst met
                exact .inl (List.mem_cons_of_mem innermost waits)
              · simp [opens, closes, same] at met

/-- What is waited for belongs to openers that were read. -/
theorem stack_after_waits (waiting text left : List Char)
    (read : brackets.stackAfter waiting text = some left)
    (known : ∀ closer ∈ waiting, ∃ opener, brackets.closer? opener = some closer) :
    ∀ closer ∈ left, ∃ opener, brackets.closer? opener = some closer := by
  induction text generalizing waiting with
  | nil =>
      cases read
      exact known
  | cons char rest induction =>
      rw [stack_after_cons] at read
      obtain ⟨next, met, others⟩ := Option.bind_eq_some_iff.mp read
      apply induction next others
      intro closer waits
      rcases brackets.meet_waits waiting next char met closer waits with outer | own
      · exact known closer outer
      · exact ⟨char, own⟩

include reads apart

/-- The closers that are waited for, in this order, close all that is open. -/
theorem stack_after_waiting (waiting : List Char)
    (known : ∀ closer ∈ waiting, ∃ opener, brackets.closer? opener = some closer) :
    brackets.stackAfter waiting waiting = some [] := by
  induction waiting with
  | nil => rfl
  | cons closer outer induction =>
      obtain ⟨opener, paired⟩ := known closer List.mem_cons_self
      have ends : brackets.closer? closer = none := by
        rw [Option.eq_none_iff_forall_not_mem]
        intro other opens
        exact apart opener closer ((reads opener closer).mp paired) other
          ((reads closer other).mp opens)
      rw [stack_after_cons, brackets.meet_closer outer opener closer paired ends]
      exact induction fun other member => known other (List.mem_cons_of_mem closer member)

/-- A text can be completed exactly when the scan comes to its end. -/
theorem completable_iff (text : List Char) :
    Completable joins text ↔ ∃ left, brackets.stackAfter [] text = some left := by
  constructor
  · rintro ⟨more, balanced⟩
    have emptied := stack_after_balanced brackets joins reads apart _ balanced []
    rw [stack_after_append] at emptied
    obtain ⟨left, read, -⟩ := Option.bind_eq_some_iff.mp emptied
    exact ⟨left, read⟩
  · rintro ⟨left, read⟩
    refine ⟨left, (first_fault_eq_none_iff_of_reads brackets joins reads apart _).mp ?_⟩
    have known := brackets.stack_after_waits [] text left read (by simp)
    rw [first_fault_eq_none_iff, stack_after_append, read, Option.bind_some]
    exact stack_after_waiting brackets joins reads apart left known

theorem hopeless_of_unmet (text : List Char) (index : Nat)
    (unmet : brackets.Unmet [] text index) : brackets.HopelessAt joins text index := by
  obtain ⟨front, char, rest, outer, rfl, rfl, read, stops⟩ := unmet
  constructor
  case closes =>
    obtain ⟨-, closes, -⟩ := (brackets.meet_eq_none_iff outer char).mp stops
    obtain ⟨opener, paired⟩ := (brackets.is_closer_iff char).mp closes
    exact ⟨opener, char, by simp, (reads opener char).mp paired⟩
  case completable =>
    intro length bound
    rw [completable_iff brackets joins reads apart]
    constructor
    · rintro ⟨left, through⟩
      apply Nat.le_of_not_lt
      intro beyond
      obtain ⟨further, rfl⟩ : ∃ further, length = front.length + (further + 1) :=
        ⟨length - front.length - 1, by omega⟩
      rw [List.take_length_add_append, List.take_succ_cons, stack_after_append, read,
        Option.bind_some, stack_after_cons, stops] at through
      cases through
    · intro within
      have split := brackets.stack_after_append [] (front.take length) (front.drop length)
      rw [List.take_append_drop, read] at split
      obtain ⟨left, through, -⟩ := Option.bind_eq_some_iff.mp split.symm
      rw [List.take_append_of_le_length within]
      exact ⟨left, through⟩
  case reported =>
    intro more
    have whole : (front ++ char :: rest).take (front.length + 1) ++ more =
        front ++ char :: more := by
      simp [List.take_length_add_append]
    have stopped := brackets.scan_stops [] 0 front char more outer read stops
    rw [whole, firstFault, stopped, Nat.zero_add]

theorem unclosed_of_left_open (text : List Char) (index : Nat)
    (left : brackets.LeftOpen [] text index)
    (ended : ∃ waiting, brackets.stackAfter [] text = some waiting) :
    UnclosedAt joins text index := by
  have completable := (completable_iff brackets joins reads apart text).mpr ended
  obtain ⟨before, opener, rest, closer, rfl, rfl, emptied, opens, stays⟩ := left
  constructor
  case completable => exact completable
  case opens => exact ⟨opener, closer, by simp, (reads opener closer).mp opens⟩
  case balanced =>
    rw [List.take_left, ← first_fault_eq_none_iff_of_reads brackets joins reads apart,
      first_fault_eq_none_iff]
    exact emptied
  case longest =>
    intro front fits balanced
    apply Nat.le_of_not_lt
    intro beyond
    have read := stack_after_balanced brackets joins reads apart front balanced []
    obtain ⟨longer, rfl⟩ : before <+: front :=
      List.prefix_of_prefix_length_le (List.prefix_append before _) fits (by omega)
    rw [List.prefix_append_right_inj] at fits
    rw [stack_after_append, emptied, Option.bind_some] at read
    rcases List.prefix_cons_iff.mp fits with rfl | ⟨inside, rfl, within⟩
    · simp at beyond
    · have opened : brackets.meet [] opener = some [closer] := by
        unfold meet
        rw [opens]
      rw [stack_after_cons, opened, Option.bind_some] at read
      exact stays inside within read

end Completion

end Brackets

/-- The position that is reported is that of a closer at which all hope is lost, or else that of
the opener behind the longest balanced front of a text that can still be completed. -/
theorem Settings.fault_position_exact (settings : Settings)
    (apart : Brackets.Apart (Brackets.Joins (Brackets.paired settings.brackets.toList)))
    (text : String) (index : Nat)
    (found : (Brackets.ofString settings.brackets).firstFault text.toList = some index) :
    index < text.length ∧
      Xor
        ((Brackets.ofString settings.brackets).HopelessAt
          (Brackets.Joins (Brackets.paired settings.brackets.toList)) text.toList index)
        (Brackets.UnclosedAt
          (Brackets.Joins (Brackets.paired settings.brackets.toList)) text.toList index) := by
  have reads := Brackets.closer_eq_some_iff_joins_paired settings.brackets
  rw [← String.length_toList]
  generalize text.toList = chars at found ⊢
  obtain ⟨place, same, unmet⟩ | ⟨ended, cause⟩ :=
    Brackets.scan_eq_some_cases _ [] 0 index chars found
  · rw [Nat.zero_add] at same
    subst same
    have hopeless := Brackets.hopeless_of_unmet _ _ reads apart chars index unmet
    exact ⟨hopeless.bound, .inl ⟨hopeless, hopeless.not_unclosed⟩⟩
  · obtain ⟨⟨⟩, -⟩ | ⟨place, same, left⟩ := cause
    rw [Nat.zero_add] at same
    subst same
    have unclosed := Brackets.unclosed_of_left_open _ _ reads apart chars index left ended
    exact ⟨unclosed.bound, .inr ⟨unclosed, fun hopeless => hopeless.not_unclosed unclosed⟩⟩

theorem fault_position_exact_unclosed :
    (Brackets.Apart (Brackets.Joins (Brackets.paired ({} : Settings).brackets.toList)) ∧
        (Brackets.ofString ({} : Settings).brackets).firstFault "x[(a)](b(c)".toList = some 6) ∧
      6 < "x[(a)](b(c)".length ∧
      Xor
        ((Brackets.ofString ({} : Settings).brackets).HopelessAt
          (Brackets.Joins (Brackets.paired ({} : Settings).brackets.toList))
          "x[(a)](b(c)".toList 6)
        (Brackets.UnclosedAt
          (Brackets.Joins (Brackets.paired ({} : Settings).brackets.toList))
          "x[(a)](b(c)".toList 6) := by
  have apart := Brackets.apart_of_closers ({} : Settings).brackets (by decide)
  have found : (Brackets.ofString ({} : Settings).brackets).firstFault
      "x[(a)](b(c)".toList = some 6 := by decide
  exact ⟨⟨apart, found⟩, Settings.fault_position_exact {} apart _ 6 found⟩

end InlineFormula
