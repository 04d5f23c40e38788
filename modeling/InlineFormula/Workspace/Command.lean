import InlineFormula.Document.Find
import InlineFormula.Document.Reach
import InlineFormula.Table
import InlineFormula.Workspace

/-!
Commands to a workspace and their answers. Commands hold drafts, since what they describe is
built while they run, in the order in which they name it.
-/

set_option autoImplicit false

namespace InlineFormula

/-- Elements are given by drafts, or by a text to read them from. -/
inductive Source where
  | drafts (drafts : List Draft)
  | text (text : String)

/-- A new document brings a configuration of its own or shares that of another. -/
inductive ConfigurationSource where
  | own (auto : Bool) (rules : List RuleDraft) (validator : Option Validator)
  | sharedWith (name : String)

inductive DocumentCommand where
  | create (text : String) (configuration : ConfigurationSource)
  | setText (text : String)
  | insert (draft : Draft) (index : Option Int)
  | update (index : Int) (kind : Option Datum) (value : Option String) (children : Option Source)
  | remove (index : Int)
  | elementAt (index : Int)
  | find (finder : Finder)
  | setElements (source : Source)
  | clear
  | setRules (rules : List RuleDraft)
  | setAuto (auto : Bool)
  | setValidator (validator : Option Validator)
  | validate
  | tabulate
  | describe
  | touch (access : Access) (index : Int) (path : List Int) (value : Option String)
      (child : Option Draft)

inductive Command where
  | parse (text : String)
  | normalize (text : String)
  | write (source : Source)
  | inspect (draft : Draft)
  | compare (left right : Source)
  | validate (text : String) (elements : Option Source) (rules : List RuleDraft) (tabulate : Bool)
  | summarize (text : String) (elements : Option Source)
  | checkBrackets (text : String)
  | checkOperators (source : Source)
  | checkOperands (source : Source)
  | buildRule (rule : RuleDraft)
  | compareRules (left right : RuleDraft)
  | choose (given : Datum) (choices : List Datum)
  | inheritDescription (own : String) (inherited : Option String)
  | tabulateElements (source : Source)
  | tabulateVerdict (verdict : VerdictDraft)
  | drawId
  | assignSettings (pairs : List (String × Datum))
  | getSetting (name : String)
  | enterScope (pairs : List (String × Datum))
  | leaveScope (failing : Bool)
  | document (name : String) (command : DocumentCommand)

/-- A step of a session is a command or a session of its own; either may bring settings that hold
while it runs. -/
inductive Step where
  | command (own : Option (List (String × Datum))) (command : Command)
  | session (own : Option (List (String × Datum))) (steps : List Step)

inductive Answer where
  | nothing
  | accepted
  | present (present : Bool)
  | elements (elements : List (Element Id))
  | element (element : Option (Element Id))
  | normalized (once twice : String) (sameTree : Bool)
  | text (text : String)
  | inspected (element copy : Element Id)
  | agreement (agree : Bool)
  | verdict (verdict : Verdict) (table : Option Table)
  | summary (checks : List (Check × Bool))
  | position (fault : Option Nat)
  | rule (rule : Rule)
  | description (text : String)
  | table (table : Table)
  | tabulated (valid : Bool) (table : Table)
  | id (id : Id)
  /-- A member of the object of options that is no datum is not shown. -/
  | setting (value : Option Datum)
  | depth (depth : Nat)
  | indices (indices : List Nat)

/-- What a command gives: its answer or fault, what it warned of and noted, and the document that
it named as it then stands. -/
structure Report where
  answer : Except Fault Answer
  warnings : List Warning
  log : List LogEntry
  document : Option Document

/-- A session is reported step by step, unless its own settings were refused. -/
inductive StepReport where
  | command (report : Report)
  | session (steps : List StepReport)
  | refused (fault : Fault)

/-- A document's description quotes its text. -/
def Document.description (document : Document) : String :=
  "FormulaDocument(" ++ Text.quoted document.text ++ ")"

end InlineFormula
