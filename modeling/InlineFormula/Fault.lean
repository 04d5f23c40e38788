import InlineFormula.Rule.RuleType
import InlineFormula.Datum

/-!
Causes of failure and of warnings, and their wording. No formula and no element list is a cause of
failure by itself: what can fail is an option, a rule, a position, a name, a column of a table, or a
caller's own function.
-/

namespace InlineFormula

inductive Fault where
  /-- Nothing has this name, asked for a change. -/
  | unknownOption (name : String)
  /-- Nothing has this name, asked for its value. -/
  | noSuchOption (name : String)
  /-- The name of the object that is changed was given for an option. -/
  | givenTwice (name : String)
  | notCallable (given : Datum)
  | notAClass (given : Datum)
  | notADictionary (given : Datum)
  | notWritable (name : String)
  | noAttribute (given : Datum) (name : String)
  | notAChoice (choices : List Datum) (given : Datum)
  | noChoices
  | singleFunctionName (name : String)
  | namesNotIterable (given : Datum)
  | invalidFunctionName (given : Datum)
  /-- Names are tried by their length. -/
  | lengthless (given : Datum)
  | notIterable (given : Datum)
  | unpairedBrackets
  | messagesNotMapping (given : Datum)
  | notSubscriptable (given : Datum)
  | unknownKind (given : Datum)
  | unknownRuleType (given : Datum)
  | unknownRule (tag : Datum)
  | predicateMissing
  | predicateNotAccepted (check : Check)
  /-- The settings hold no message for this type of rule. -/
  | messageMissing (type : RuleType)
  | noDocument (name : String)
  | indexOutOfRange
  | noOpenScope
  | zeroModulus
  | findFailed
  /-- An open scope was left by a failure inside it. -/
  | insideScope
  /-- A predicate, a validator or a column failed in its own way. -/
  | raised (cause message : String)

/-- A tuple with one entry keeps a comma behind it. -/
def Datum.tupleLiteral : List Datum → String
  | [only] => "(" ++ only.literal ++ ",)"
  | items => "(" ++ ", ".intercalate (items.map literal) ++ ")"

namespace Fault

def ruleTags : Datum := .list (RuleType.all.map fun type => .text type.tag)

def message : Fault → String
  | unknownOption name => "Unknown option '" ++ name ++ "'"
  | noSuchOption name => "'_Options' object has no attribute '" ++ name ++ "'"
  | givenTwice name => "_Options.update() got multiple values for argument '" ++ name ++ "'"
  | notCallable given => "'" ++ given.typeName ++ "' object is not callable"
  | notAClass given => "__class__ must be set to a class, not '" ++ given.typeName ++ "' object"
  | notADictionary given =>
      "__dict__ must be set to a dictionary, not a '" ++ given.typeName ++ "'"
  | notWritable name => "attribute '" ++ name ++ "' of '_Options' objects is not writable"
  | noAttribute given name =>
      "'" ++ given.typeName ++ "' object has no attribute '" ++ name ++ "'"
  | notAChoice choices given =>
      "Invalid argument. Expecting one of " ++ Datum.tupleLiteral choices ++ ". Got " ++
        given.plain
  | noChoices =>
      "typing.Literal[()] must be a Literal[...] type argument with least one type"
  | singleFunctionName name =>
      "function_names must be a collection of names, not a single string. " ++
        "Use function_names=(\"" ++ name ++ "\",) for a single function."
  | namesNotIterable given => "'" ++ given.typeName ++ "' object is not iterable"
  | invalidFunctionName given =>
      "Invalid function name " ++ given.literal ++
        ". Expecting a non-empty string of ASCII letters."
  | lengthless given => "object of type '" ++ given.typeName ++ "' has no len()"
  | notIterable given => "argument of type '" ++ given.typeName ++ "' is not iterable"
  | unpairedBrackets => "brackets must be a string of opener/closer pairs, e.g. '()[]'."
  | messagesNotMapping given => "'" ++ given.typeName ++ "' object is not a mapping"
  | notSubscriptable (.text _) => "string indices must be integers, not 'str'"
  | notSubscriptable (.list _) => "list indices must be integers or slices, not str"
  | notSubscriptable given => "'" ++ given.typeName ++ "' object is not subscriptable"
  | unknownKind given => given.literal ++ " is not a valid ElementType"
  | unknownRuleType given => given.literal ++ " is not a valid ValidationRuleType"
  | unknownRule tag =>
      "Unknown validation rule '" ++ tag.plain ++ "'. Expecting one of " ++ ruleTags.literal ++
        "."
  | predicateMissing => "A custom validation rule requires a `validate` predicate."
  | predicateNotAccepted check =>
      "Only custom rules accept a `validate` predicate, got one for '" ++
        (RuleType.check check).tag ++ "'."
  | messageMissing type => type.tag
  | noDocument name => name
  | indexOutOfRange => "list index out of range"
  | noOpenScope => "pop from empty list"
  | zeroModulus => "integer modulo by zero"
  | findFailed => "find failed"
  | insideScope => "inside context"
  | raised _ message => message

end Fault

inductive Warning where
  /-- A rule was kept although its tag is not known. -/
  | ruleIgnored (tag : Datum)
  /-- A column warned in its own way. -/
  | raised (category message : String)

def Warning.message : Warning → String
  | ruleIgnored tag => "Unknown validation rule '" ++ tag.plain ++ "' will be ignored."
  | raised _ message => message

/-- A mapped result is a value only if the result was. -/
theorem of_map_eq_ok {α β : Type} {result : Except Fault α} {change : α → β} {value : β}
    (mapped : result.map change = .ok value) :
    ∃ given, result = .ok given ∧ change given = value := by
  cases result with
  | error fault => cases mapped
  | ok given => exact ⟨given, rfl, Except.ok.inj mapped⟩

/-- A mapped result is a fault only if the result was. -/
theorem of_map_eq_error {α β : Type} {result : Except Fault α} {change : α → β} {fault : Fault}
    (mapped : result.map change = .error fault) : result = .error fault := by
  cases result with
  | error raised => exact congrArg Except.error (Except.error.inj mapped)
  | ok given => cases mapped

/-- Results of a list are all values only if each of them is. -/
theorem of_map_m_cons_eq_ok {α β : Type} {step : α → Except Fault β} {item : α} {rest : List α}
    {results : List β} (read : (item :: rest).mapM step = .ok results) :
    ∃ first others, step item = .ok first ∧ rest.mapM step = .ok others ∧
      results = first :: others := by
  rw [List.mapM_cons] at read
  cases first : step item with
  | error fault =>
      rw [first] at read
      cases read
  | ok value =>
      cases later : rest.mapM step with
      | error fault =>
          rw [first, later] at read
          cases read
      | ok others =>
          rw [first, later] at read
          cases read
          exact ⟨value, others, rfl, rfl, rfl⟩

end InlineFormula
