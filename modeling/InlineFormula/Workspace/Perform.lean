import InlineFormula.Choice
import InlineFormula.Description
import InlineFormula.Formula.Reading
import InlineFormula.Workspace.Command

/-!
Performing commands. Whatever a command describes is built before anything is changed; the
identifiers drawn on the way stay drawn if it fails.
-/

set_option autoImplicit false

namespace InlineFormula.Action

def ofExcept {α : Type} : Except Fault α → Action α
  | .ok value => pure value
  | .error fault => throw fault

def options : Action Options := return (← get).options

def settings : Action Settings := return (← get).settings

/-- Runs a function that draws identifiers. -/
def drawing {α : Type} (draw : Nat → Draft.Drawing α) : Action α := do
  let (result, drawn) := draw (← get).drawn
  modify fun workspace => { workspace with drawn }
  ofExcept result

def draw : Action Id := drawing fun drawn => (.ok (Id.ofNat (drawn + 1)), drawn + 1)

def parse (text : String) : Action (List (Element Id)) := do
  let options ← options
  drawing fun drawn => options.readFormula drawn text

/-- Comes before an operation that reads the text itself, and has drawn only if that fails. -/
def readable (text : String) : Action Unit := do
  let options ← options
  drawing fun drawn => options.readable drawn text

def copy (element : Element Id) : Action (Element Id) :=
  drawing fun drawn => (.ok (element.copied drawn), drawn + element.size)

def buildElement (draft : Draft) : Action (Element Id) := drawing fun drawn => draft.build drawn

def buildElements : Source → Action (List (Element Id))
  | .drafts drafts => drawing fun drawn => Draft.buildAll drawn drafts
  | .text text => parse text

/-- The elements of a text unless others are given. -/
def elementsOf (text : String) (given : Option Source) : Action (List (Element Id)) :=
  buildElements (given.getD (.text text))

def warn (warning : Option Warning) : Action Unit :=
  modify fun workspace => { workspace with warnings := workspace.warnings ++ warning.toList }

def buildRule (draft : RuleDraft) : Action Rule := do
  let rule ← ofExcept (Rule.build (← settings) draft)
  warn rule.warning?
  return rule

def buildRules (drafts : List RuleDraft) : Action (List Rule) := drafts.mapM buildRule

def note (entries : List LogEntry) : Action Unit :=
  modify fun workspace => { workspace with log := workspace.log ++ entries }

/-- A run of rules is noted when it comes to its end. -/
def validate (text : String) (elements : List (Element Id)) (rules : List Rule) :
    Action Verdict := do
  let verdict ← ofExcept (Verdict.ofRules (← settings) text elements rules)
  note [.validated text rules.length verdict.violations.length]
  return verdict

def tabulate (verdict : Verdict) : Action Table := do
  match Table.ofVerdict (← get).column verdict with
  | .ok table => return table
  | .error refusal => do
      warn refusal.warning
      throw refusal.fault

/-- A change of scopes; what it did stays done if it fails. -/
def rescope (change : Scopes → Scopes × Option Fault) : Action Unit := do
  let (scopes, fault) := change (← get).scopes
  modify fun workspace => { workspace with scopes }
  match fault with
  | none => return
  | some fault => throw fault

/-- Runs an action under changed options, and brings the former ones back however it ends. -/
def within {α : Type} (pairs : List (String × Datum)) (action : Action α) : Action α := do
  let (inner, opened) := (← options).override pairs
  modify fun workspace => workspace.withOptions inner
  let kept ← ofExcept opened
  let result ← tryCatch (Except.ok <$> action) fun fault => return .error fault
  modify fun workspace => workspace.restore kept
  ofExcept result

def holding (name : String) : Action Holding := do
  match (← get).find? name with
  | some holding => return holding
  | none => throw (.noDocument name)

/-- All but the creation of a document want the document to be there, before anything that they
describe is built. -/
def require (name : String) : DocumentCommand → Action Unit
  | .create _ _ => return
  | _ => do
      let _ ← holding name

/-- Keeps what an operation left behind, also when a fault cut it short. -/
def keep {α : Type} (name : String) (holding : Holding) (outcome : Outcome α) : Action α := do
  modify fun workspace => workspace.put name { holding with document := outcome.document }
  note outcome.log
  ofExcept outcome.result

def edit (name : String) (edit : Edit) : Action EditAnswer := do
  let workspace ← get
  let holding ← holding name
  let (outcome, drawn) :=
    holding.document.edit workspace.settings (workspace.configuration holding) workspace.drawn edit
  modify fun workspace => { workspace with drawn }
  keep name holding outcome

def configure (name : String) (change : Configuration → Configuration) : Action Unit := do
  let holding ← holding name
  modify fun workspace =>
    { workspace with
      configurations := workspace.configurations.modify holding.configuration change }

/-- A document whose first validation fails is not kept, nor is a configuration added for it. -/
def start (name text : String) (number : Nat) (configuration : Configuration)
    (added : List Configuration) : Action Unit := do
  readable text
  let workspace ← get
  let (outcome, drawn) := Document.start workspace.settings configuration workspace.drawn text
  modify fun workspace => { workspace with drawn }
  note outcome.log
  let _ ← ofExcept outcome.result
  modify fun workspace =>
    { workspace with configurations := workspace.configurations ++ added }.put name
      { document := outcome.document, configuration := number }

def create (name text : String) : ConfigurationSource → Action Unit
  | .sharedWith other => do
      let shared ← holding other
      start name text shared.configuration ((← get).configuration shared) []
  | .own auto rules validator => do
      let rules ← buildRules rules
      let configuration : Configuration := { auto, rules, validator }
      start name text (← get).configurations.length configuration [configuration]

def answerOf : EditAnswer → Answer
  | .done => .nothing
  | .stored element => .element (some element)
  | .found present => .present present

/-- The end of a touch, once the place is found and the child is built. -/
def handBack (name : String) (holding : Holding) (place : Nat) (path : List Int) (touch : Touch) :
    Action Answer := do
  let touched ← ofExcept (holding.document.touch place path touch)
  modify fun workspace => workspace.put name { holding with document := touched }
  return .present true

/-- Reaches into a document. The path is walked before the child is built, and an element that
is handed out as a copy may be none. -/
def touch (name : String) (access : Access) (index : Int) (path : List Int)
    (value : Option String) (child : Option Draft) : Action Answer := do
  let before ← holding name
  match ← ofExcept (before.document.accessPlace access index) with
  | none => return .nothing
  | some place =>
      let _ ← ofExcept (before.document.touch place path {})
      let child ← match child with
        | none => pure none
        | some draft => some <$> buildElement draft
      handBack name before place path (.reaching access path.length { value, child })

def performOn (name : String) : DocumentCommand → Action Answer
  | .create text configuration => do
      create name text configuration
      return .nothing
  | .setText text => do
      readable text
      answerOf <$> edit name (.setText text)
  | .insert draft index => do
      let element ← buildElement draft
      answerOf <$> edit name (.insert element index)
  | .update index kind value children => do
      let children ← match children with
        | none => pure none
        | some source => some <$> buildElements source
      answerOf <$> edit name (.update index { kind, value, children })
  | .remove index => answerOf <$> edit name (.remove index)
  | .elementAt index => do
      return .element ((← holding name).document.elementAt? index)
  | .find finder => do
      .indices <$> ofExcept ((← holding name).document.find finder)
  | .setElements source => do
      let elements ← buildElements source
      answerOf <$> edit name (.setElements elements)
  | .clear => answerOf <$> edit name .clear
  | .setRules rules => do
      let rules ← buildRules rules
      configure name fun configuration => { configuration with rules }
      return .nothing
  | .setAuto auto => do
      configure name fun configuration => { configuration with auto }
      return .nothing
  | .setValidator validator => do
      configure name fun configuration => { configuration with validator }
      return .nothing
  | .validate => do
      let workspace ← get
      let holding ← holding name
      let verdict ← keep name holding
        (holding.document.validate workspace.settings (workspace.configuration holding))
      return .verdict verdict none
  | .tabulate => return .table (.ofElements (← holding name).document.elements)
  | .describe => return .description (← holding name).document.description
  | .touch access index path value child => touch name access index path value child

def perform : Command → Action Answer
  | .parse text => .elements <$> parse text
  | .normalize text => do
      let first ← parse text
      let once := Formula.write first
      let second ← parse once
      let left ← parse once
      let right ← parse text
      return .normalized once (Formula.write second) (Element.allSame left right)
  | .write source => return .text (Formula.write (← buildElements source))
  | .inspect draft => do
      let element ← buildElement draft
      return .inspected element (← copy element)
  | .compare left right => do
      let left ← buildElements left
      let right ← buildElements right
      return .agreement (Element.allSame left right)
  | .validate text elements rules wantsTable => do
      let elements ← elementsOf text elements
      let rules ← buildRules rules
      let verdict ← validate text elements rules
      if wantsTable then return .verdict verdict (some (← tabulate verdict))
      else return .verdict verdict none
  | .summarize text elements => do
      let elements ← elementsOf text elements
      .summary <$> ofExcept (Check.summarize (← settings) text elements)
  | .checkBrackets text => do
      let brackets := Brackets.ofString (← settings).brackets
      return .position (brackets.firstFault text.toList)
  | .checkOperators source => do
      return .position (Adjacency.firstUnsurrounded (← buildElements source))
  | .checkOperands source => do
      return .position (Adjacency.firstConsecutive (← buildElements source))
  | .buildRule rule => .rule <$> buildRule rule
  | .compareRules left right => do
      let left ← buildRule left
      let right ← buildRule right
      return .agreement (left.agrees right)
  | .choose given choices => do
      ofExcept (Choice.check given choices)
      return .accepted
  | .inheritDescription own inherited =>
      return .description (InlineFormula.inheritDescription own inherited)
  | .tabulateElements source => return .table (.ofElements (← buildElements source))
  | .tabulateVerdict draft => do
      let verdict ← ofExcept draft.build
      return .tabulated verdict.valid (← tabulate verdict)
  | .drawId => .id <$> draw
  | .assignSettings pairs => do
      rescope (Scopes.assign pairs)
      return .accepted
  | .getSetting name => do .setting <$> ofExcept ((← options).get name)
  | .enterScope pairs => do
      rescope (Scopes.enter pairs)
      return .depth (← get).scopes.depth
  | .leaveScope failing => do
      rescope Scopes.leave
      if failing then throw .insideScope
      return .depth (← get).scopes.depth
  | .document name command => do
      require name command
      performOn name command

end InlineFormula.Action

namespace InlineFormula

/-- The name of the document that a command is about. -/
def Command.documentName? : Command → Option String
  | .document name _ => some name
  | _ => none

namespace Workspace

/-- Performs one command, within a scope of its own when options are given for it. -/
def perform (workspace : Workspace) (own : Option (List (String × Datum))) (command : Command) :
    Report × Workspace :=
  let fresh := { workspace with warnings := [], log := [] }
  let action := match own with
    | none => Action.perform command
    | some pairs => Action.within pairs (Action.perform command)
  let (answer, after) := action.run.run fresh
  let named := command.documentName?.bind after.find?
  ({ answer
     warnings := after.warnings
     log := after.log
     document := named.map Holding.document }, after)

mutual
/-- The steps of a session share the workspace with what comes before and after it; only the
options it brought are taken back at its end. -/
def run (workspace : Workspace) : Step → StepReport × Workspace
  | .command own command =>
      let (report, after) := workspace.perform own command
      (.command report, after)
  | .session none steps =>
      let (reports, after) := workspace.runAll steps
      (.session reports, after)
  | .session (some pairs) steps =>
      match workspace.options.override pairs with
      | (inner, .error fault) => (.refused fault, workspace.withOptions inner)
      | (inner, .ok kept) =>
          let (reports, after) := (workspace.withOptions inner).runAll steps
          (.session reports, after.restore kept)

def runAll (workspace : Workspace) : List Step → List StepReport × Workspace
  | [] => ([], workspace)
  | step :: rest =>
      let (report, between) := workspace.run step
      let (reports, after) := between.runAll rest
      (report :: reports, after)
end

end Workspace

mutual
/-- What was noted in a step; for a session, in all steps of it. -/
def StepReport.log : StepReport → List LogEntry
  | .command report => report.log
  | .session steps => StepReport.logs steps
  | .refused _ => []

def StepReport.logs : List StepReport → List LogEntry
  | [] => []
  | step :: rest => step.log ++ StepReport.logs rest
end

end InlineFormula
