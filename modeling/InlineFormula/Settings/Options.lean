import InlineFormula.Settings

/-!
Options as they are set. Options are attributes of one object, and each attribute that the object
has can be set, whether it is an option or not. A change sets named data in order and ends at the
first that does not fit. What scopes bring back is what the object told of its options before.
-/

set_option autoImplicit false

namespace InlineFormula

namespace Setting

def readFunctionName : Datum → Except Fault String
  | .text name =>
      if isFunctionName name then .ok name else .error (.invalidFunctionName (.text name))
  | given => .error (.invalidFunctionName given)

/-- The names of an object are a collection of names too. -/
def readFunctionNames : Datum → Except Fault (List String)
  | .text name => .error (.singleFunctionName name)
  | .list items => items.mapM readFunctionName
  | .object fields => fields.mapM fun field => readFunctionName (.text field.1)
  | given => .error (.namesNotIterable given)

def readBrackets : Datum → Except Fault String
  | .text pairs => if pairs.length % 2 = 0 then .ok pairs else .error .unpairedBrackets
  | _ => .error .unpairedBrackets

/-- Given messages complete the standard ones, whatever messages are in force. -/
def readMessages : Datum → Except Fault Messages
  | .object fields => .ok (Messages.standard.merge fields)
  | given => .error (.messagesNotMapping given)

/-- What is stored under a name when a datum is given for it. Of what is no option, only three
attributes are particular about it. -/
def read (name : String) (given : Datum) : Except Fault Datum :=
  match name with
  | "function_names" => (readFunctionNames given).map fun names => .list (names.map .text)
  | "brackets" => (readBrackets given).map .text
  | "unknown_rule" => (UnknownRulePolicy.ofDatum given).map fun policy => .text policy.tag
  | "messages" => (readMessages given).map .object
  | "__class__" => .error (.notAClass given)
  | "__weakref__" => .error (.notWritable name)
  | "__dict__" =>
      match given with
      | .object fields => .ok (.object fields)
      | _ => .error (.notADictionary given)
  | _ => .ok given

end Setting

/-- What was set on the object itself. -/
structure Options where
  own : String → Option Datum

namespace Options

def names : List String :=
  ["function_names", "operators", "brackets", "unknown_rule", "messages"]

/-- What there is of options that are not set; messages are not among it. -/
def inherited : List (String × Datum) :=
  [("function_names", .list (({} : Settings).functionNames.map .text)),
    ("operators", .text ({} : Settings).operators),
    ("brackets", .text ({} : Settings).brackets),
    ("unknown_rule", .text ({} : Settings).unknownRule.tag)]

def preset : List (String × Datum) := inherited ++ [("messages", .object Messages.standard)]

def standard : Options := ⟨fun name => preset.lookup name⟩

/-- The methods, and what every object has. -/
def members : List String :=
  ["update", "to_dict", "__annotations__", "__class__", "__dataclass_fields__",
    "__dataclass_params__", "__delattr__", "__dict__", "__dir__", "__doc__", "__eq__",
    "__format__", "__ge__", "__getattribute__", "__getstate__", "__gt__", "__hash__", "__init__",
    "__init_subclass__", "__le__", "__lt__", "__match_args__", "__module__", "__ne__", "__new__",
    "__reduce__", "__reduce_ex__", "__repr__", "__setattr__", "__sizeof__", "__str__",
    "__subclasshook__", "__weakref__"]

def value (options : Options) (name : String) : Option Datum :=
  (options.own name).or (inherited.lookup name)

def has (options : Options) (name : String) : Bool :=
  (options.value name).isSome || members.contains name

def put (options : Options) (name : String) (value : Datum) : Options :=
  ⟨fun other => if other = name then some value else options.own other⟩

/-- All that was set is one of the attributes, and it can be replaced as a whole. -/
def store (options : Options) (name : String) (value : Datum) : Options :=
  match name, value with
  | "__dict__", .object fields => ⟨fun other => fields.lookup other⟩
  | name, value => options.put name value

def set (options : Options) (name : String) (given : Datum) : Except Fault Options :=
  if options.has name then (Setting.read name given).map (options.store name)
  else .error (.unknownOption name)

/-- Named data are set in order. The first that does not fit ends the change, and those before it
stay set. -/
def setAll (options : Options) : List (String × Datum) → Options × Option Fault
  | [] => (options, none)
  | (name, given) :: rest =>
      match options.set name given with
      | .ok changed => changed.setAll rest
      | .error fault => (options, some fault)

/-- A change calls a method of the object and passes the data by name; the method may have been
replaced by something else, and a name that it uses itself is refused before anything is set. -/
def assign (options : Options) (pairs : List (String × Datum)) : Options × Option Fault :=
  match options.own "update" with
  | some given => (options, some (.notCallable given))
  | none =>
      if pairs.any fun pair => pair.1 == "self" then (options, some (.givenTwice "self"))
      else options.setAll pairs

/-- The options with their values, as the object tells them. It goes by a table of its fields,
which may have been replaced. -/
def snapshot (options : Options) : Except Fault (List (String × Datum)) :=
  match options.own "to_dict" with
  | some given => .error (.notCallable given)
  | none =>
      match options.own "__dataclass_fields__" with
      | none => names.mapM fun name =>
          match options.value name with
          | some value => .ok (name, value)
          | none => .error (.noSuchOption name)
      | some (.object []) => .ok []
      | some (.object ((_, field) :: _)) => .error (.noAttribute field "_field_type")
      | some given => .error (.noAttribute given "values")

def restore (options : Options) (kept : List (String × Datum)) : Options :=
  kept.foldl (fun options entry => options.put entry.1 entry.2) options

/-- A change for the time being, and what will be brought back after it. If the change fails
part-way, that is brought back at once. -/
def override (options : Options) (pairs : List (String × Datum)) :
    Options × Except Fault (List (String × Datum)) :=
  match options.snapshot with
  | .error fault => (options, .error fault)
  | .ok kept =>
      match options.assign pairs with
      | (changed, some fault) => (changed.restore kept, .error fault)
      | (changed, none) => (changed, .ok kept)

/-- Members of the object that were not replaced are no data, and nothing is shown of them. -/
def get (options : Options) (name : String) : Except Fault (Option Datum) :=
  if name = "__class__" ∨ name = "__dict__" ∨ name = "__weakref__" then .ok none
  else
    match options.value name with
    | some value => .ok (some value)
    | none => if members.contains name then .ok none else .error (.noSuchOption name)

/-! Reading options. Values of other types than an option is meant to have are read as far as they
go; past the checks of a change, they come in by replacing all attributes. -/

def read {α : Type} (options : Options) (name : String) (convert : Datum → Except Fault α) :
    Except Fault α :=
  match options.value name with
  | some value => convert value
  | none => .error (.noSuchOption name)

theorem read_eq {α : Type} (options : Options) (name : String) (convert : Datum → Except Fault α)
    (value : Datum) (there : options.value name = some value) :
    options.read name convert = convert value := by
  rw [read, there]

def nameOfDatum : Datum → Except Fault String
  | .text name => .ok name
  | given => .error (.lengthless given)

def namesOfDatum : Datum → Except Fault (List String)
  | .text letters => .ok (letters.toList.map fun char => String.ofList [char])
  | .list items => items.mapM nameOfDatum
  | .object fields => .ok (fields.map Prod.fst)
  | given => .error (.namesNotIterable given)

def singleChar? (text : String) : Option Char :=
  match text.toList with
  | [char] => some char
  | _ => none

/-- The characters that are among a datum, as a part of a text or as an item. -/
def charactersOfDatum : Datum → Except Fault String
  | .text characters => .ok characters
  | .list items =>
      .ok (String.ofList (items.filterMap fun
        | .text item => singleChar? item
        | _ => none))
  | .object fields => .ok (String.ofList (fields.filterMap fun field => singleChar? field.1))
  | given => .error (.notIterable given)

def messagesOfDatum : Datum → Except Fault Messages
  | .object entries => .ok entries
  | given => .error (.notSubscriptable given)

def functionNames (options : Options) : Except Fault (List String) :=
  options.read "function_names" namesOfDatum

def operators (options : Options) : Except Fault String :=
  options.read "operators" charactersOfDatum

def brackets (options : Options) : Except Fault String :=
  options.read "brackets" charactersOfDatum

def messages (options : Options) : Except Fault Messages :=
  options.read "messages" messagesOfDatum

/-- Whatever is not the word for rejecting counts as the other choice. -/
def unknownRule (options : Options) : UnknownRulePolicy :=
  match options.value "unknown_rule" with
  | some (.text given) => if given = UnknownRulePolicy.reject.tag then .reject else .ignore
  | _ => .ignore

/-- Without what cannot be read; a text that comes to need it is refused. -/
def settings (options : Options) : Settings where
  functionNames := options.functionNames.toOption.getD []
  operators := options.operators.toOption.getD ""
  brackets := options.brackets.toOption.getD ""
  unknownRule := options.unknownRule
  messages := options.messages

theorem settings_standard : standard.settings = {} := rfl

@[simp] theorem own_put (options : Options) (name : String) (value : Datum) :
    (options.put name value).own name = some value := if_pos rfl

theorem own_put_other (options : Options) (name other : String) (value : Datum)
    (different : other ≠ name) : (options.put name value).own other = options.own other :=
  if_neg different

theorem put_comm (options : Options) (left right : String) (first second : Datum)
    (different : left ≠ right) :
    (options.put left first).put right second = (options.put right second).put left first := by
  simp only [put, mk.injEq]
  funext other
  by_cases isLeft : other = left
  · simp [isLeft, different]
  · simp [isLeft]

end Options

end InlineFormula
