import InlineFormula.Element.Ids
import InlineFormula.Fault
import InlineFormula.Verdict

/-!
Tables: one row per top-level element, or one per violation. The indices of violations make up a
column of 64-bit words; how such a column is made is left to those who want the table, and a
column of words that all fit is never refused.
-/

set_option autoImplicit false

namespace InlineFormula

inductive Cell where
  | missing
  | text (value : String)
  | int (value : Int)
  | datum (value : Datum)

def Cell.ofDatum : Datum → Cell
  | .null => missing
  | .text value => text value
  | .int value => int value
  | given => datum given

structure Table where
  indexName : Option String
  columns : List String
  rows : List (List Cell)

/-- What a column that is refused leaves behind. -/
structure Refusal where
  fault : Fault
  warning : Option Warning := none

/-- The words from `-2 ^ 63` up to `2 ^ 63` have a sign. -/
def fitsWord (value : Int) : Prop := -0x8000000000000000 ≤ value ∧ value < 0x8000000000000000

/-- A way of making columns of words with a sign, in which cells may be missing. -/
structure Column where
  refusal? : List (Option Int) → Option Refusal
  accepts : ∀ cells, (∀ value, some value ∈ cells → fitsWord value) → refusal? cells = none

/-- A column that takes integers of any size. -/
def Column.unbounded : Column where
  refusal? _ := none
  accepts _ _ := rfl

namespace Table

/-- The values of several modifiers run together; without any the cell is missing. -/
def joined {ι : Type} : List (Element ι) → Cell
  | [] => .missing
  | modifiers => .text (String.join (modifiers.map Element.value))

def elementRow (element : Element Id) : List Cell :=
  [.text element.kind.tag, .text element.value, joined element.superscripts,
    joined element.subscripts, .text element.id]

def ofElements (elements : List (Element Id)) : Table where
  indexName := some "position"
  columns := ["kind", "value", "superscript", "subscript", "id"]
  rows := elements.map elementRow

def violationRow (violation : Violation) : List Cell :=
  [.text violation.type.tag, .ofDatum violation.message, violation.index.elim .missing .int]

def ofVerdict (column : Column) (verdict : Verdict) : Except Refusal Table :=
  match column.refusal? (verdict.violations.map Violation.index) with
  | some refusal => .error refusal
  | none =>
      .ok
        { indexName := none
          columns := ["rule_type", "message", "element_index"]
          rows := verdict.violations.map violationRow }

/-- A verdict whose indices are words has a table, with a row for each violation. -/
theorem of_verdict_ok (column : Column) (verdict : Verdict)
    (fits : ∀ violation ∈ verdict.violations, ∀ value,
      violation.index = some value → fitsWord value) :
    ∃ table, ofVerdict column verdict = .ok table ∧
      table.rows = verdict.violations.map violationRow := by
  have accepted : column.refusal? (verdict.violations.map Violation.index) = none := by
    apply column.accepts
    intro value member
    rcases List.mem_map.mp member with ⟨violation, among, found⟩
    exact fits violation among value found
  rw [ofVerdict, accepted]
  exact ⟨_, rfl, rfl⟩

/-- The table without one of its columns. -/
def without (column : String) (table : Table) : Table :=
  { table with
    columns := table.columns.filter (· != column)
    rows := table.rows.map fun row =>
      ((table.columns.zip row).filter fun cell => cell.1 != column).map Prod.snd }

end Table

end InlineFormula
