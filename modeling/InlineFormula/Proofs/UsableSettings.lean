import InlineFormula.Formula.Reading
import InlineFormula.Proofs.FunctionNames
import InlineFormula.Proofs.OptionChanges

/-!
Options that are fit for use. What is stored for an option fits it, whatever was stored before, so
options stay fit for use under every change that goes through them one by one; a change that fails
part-way has stored nothing else. Options that are fit can all be read, and so can every text.
-/

set_option autoImplicit false

namespace InlineFormula

/-- There is a message for every type of rule, though it may be the absent one. -/
def Settings.MessagesComplete (settings : Settings) : Prop :=
  ∀ type, ∃ message, settings.messageFor type = .ok message

theorem Settings.message_for_ok_iff (settings : Settings) (entries : Messages)
    (there : settings.messages = .ok entries) (type : RuleType) :
    (∃ message, settings.messageFor type = .ok message) ↔
      (entries.lookup type.tag).isSome = true := by
  simp only [messageFor, there]
  cases entries.lookup type.tag <;> simp

theorem Messages.merge_lookup (base newer : Messages) (tag : String)
    (found : (base.lookup tag).isSome = true) :
    ((base.merge newer).lookup tag).isSome = true := by
  obtain ⟨entry, member, named⟩ := List.lookup_isSome_iff.mp found
  apply List.lookup_isSome_iff.mpr
  by_cases replaced : (newer.any fun other => other.1 == entry.1) = true
  · obtain ⟨other, among, same⟩ := List.any_eq_true.mp replaced
    refine ⟨other, List.mem_append_right _ among, ?_⟩
    rw [eq_of_beq named, eq_of_beq same]
    exact beq_self_eq_true _
  · refine ⟨entry, List.mem_append_left _ (List.mem_filter.mpr ⟨member, ?_⟩), named⟩
    rw [Bool.not_eq_true] at replaced
    rw [replaced]
    rfl

theorem messages_standard_lookup (type : RuleType) :
    (Messages.standard.lookup type.tag).isSome = true := by
  cases type with
  | check check => cases check <;> decide
  | custom => decide

theorem messages_complete_of_standard (settings : Settings)
    (standard : settings.messages = .ok .standard) : settings.MessagesComplete := by
  intro type
  exact (settings.message_for_ok_iff .standard standard type).mpr (messages_standard_lookup type)

namespace Setting

def Fits (name : String) (value : Datum) : Prop :=
  match name with
  | "function_names" => ∃ names : List String,
      value = .list (names.map .text) ∧ ∀ name ∈ names, isFunctionName name = true
  | "operators" => ∃ characters, value = .text characters
  | "brackets" => ∃ pairs : String, value = .text pairs ∧ pairs.length % 2 = 0
  | "unknown_rule" => ∃ policy : UnknownRulePolicy, value = .text policy.tag
  | "messages" => ∃ entries : Messages,
      value = .object entries ∧ ∀ type : RuleType, (entries.lookup type.tag).isSome = true
  | _ => True

/-- A datum that sets one attribute only, and if that is the operators, a text for them. -/
def Plain (pair : String × Datum) : Prop :=
  pair.1 ≠ "__dict__" ∧ (pair.1 = "operators" → ∃ characters, pair.2 = .text characters)

theorem read_function_name_accepted (given : Datum) (name : String)
    (accepted : readFunctionName given = .ok name) : isFunctionName name = true := by
  cases given with
  | text written =>
      rw [readFunctionName] at accepted
      split at accepted
      case isTrue named =>
        cases accepted
        exact named
      case isFalse => cases accepted
  | _ => cases accepted

theorem read_names_accepted {α : Type} (readName : α → Except Fault String)
    (eachAccepted : ∀ item name, readName item = .ok name → isFunctionName name = true)
    (items : List α) (names : List String) (accepted : items.mapM readName = .ok names) :
    ∀ name ∈ names, isFunctionName name = true := by
  induction items generalizing names with
  | nil =>
      cases accepted
      exact nofun
  | cons item rest induction =>
      obtain ⟨first, others, read, later, rfl⟩ := of_map_m_cons_eq_ok accepted
      exact List.forall_mem_cons.mpr ⟨eachAccepted item first read, induction others later⟩

theorem read_function_names_accepted (given : Datum) (names : List String)
    (accepted : readFunctionNames given = .ok names) :
    ∀ name ∈ names, isFunctionName name = true := by
  cases given with
  | list items => exact read_names_accepted _ read_function_name_accepted items names accepted
  | object fields =>
      exact read_names_accepted (fun field : String × Datum => readFunctionName (.text field.1))
        (fun field => read_function_name_accepted (.text field.1)) fields names accepted
  | _ => cases accepted

theorem read_brackets_accepted (given : Datum) (pairs : String)
    (accepted : readBrackets given = .ok pairs) : pairs.length % 2 = 0 := by
  cases given with
  | text written =>
      rw [readBrackets] at accepted
      split at accepted
      case isTrue paired =>
        cases accepted
        exact paired
      case isFalse => cases accepted
  | _ => cases accepted

theorem read_messages_accepted (given : Datum) (entries : Messages)
    (accepted : readMessages given = .ok entries) (type : RuleType) :
    (entries.lookup type.tag).isSome = true := by
  cases given with
  | object fields =>
      cases accepted
      exact Messages.merge_lookup _ _ _ (messages_standard_lookup type)
  | _ => cases accepted

theorem read_fits (name : String) (given value : Datum) (plain : Plain (name, given))
    (accepted : read name given = .ok value) : Fits name value := by
  unfold read at accepted
  split at accepted
  case h_1 =>
    obtain ⟨names, read, rfl⟩ := of_map_eq_ok accepted
    exact ⟨names, rfl, read_function_names_accepted given names read⟩
  case h_2 =>
    obtain ⟨pairs, read, rfl⟩ := of_map_eq_ok accepted
    exact ⟨pairs, rfl, read_brackets_accepted given pairs read⟩
  case h_3 =>
    obtain ⟨policy, -, rfl⟩ := of_map_eq_ok accepted
    exact ⟨policy, rfl⟩
  case h_4 =>
    obtain ⟨entries, read, rfl⟩ := of_map_eq_ok accepted
    exact ⟨entries, rfl, read_messages_accepted given entries read⟩
  case h_5 => cases accepted
  case h_6 => cases accepted
  case h_7 => exact absurd rfl plain.1
  case h_8 =>
    cases accepted
    unfold Fits
    split
    case h_2 => exact plain.2 rfl
    case h_6 => trivial
    all_goals contradiction

end Setting

namespace Options

def Usable (options : Options) : Prop :=
  ∀ name ∈ names, ∃ value, options.value name = some value ∧ Setting.Fits name value

theorem usable_standard : standard.Usable := by
  intro name member
  have names : ∀ name ∈ ({} : Settings).functionNames, Setting.isFunctionName name = true := by
    decide
  simp only [Options.names, List.mem_cons, List.not_mem_nil, or_false] at member
  rcases member with rfl | rfl | rfl | rfl | rfl
  · exact ⟨_, rfl, _, rfl, names⟩
  · exact ⟨_, rfl, _, rfl⟩
  · exact ⟨_, rfl, _, rfl, by decide⟩
  · exact ⟨_, rfl, .reject, rfl⟩
  · exact ⟨_, rfl, _, rfl, messages_standard_lookup⟩

namespace Usable

variable {options : Options}

theorem put (usable : options.Usable) (name : String) (value : Datum)
    (fits : Setting.Fits name value) : (options.put name value).Usable := by
  intro other member
  by_cases same : other = name
  · subst same
    exact ⟨value, options.value_put other value, fits⟩
  · rw [options.value_put_other name other value same]
    exact usable other member

theorem set (usable : options.Usable) (pair : String × Datum) (plain : Setting.Plain pair)
    (after : Options) (accepted : options.set pair.1 pair.2 = .ok after) : after.Usable := by
  obtain ⟨-, value, read, rfl⟩ := (options.set_ok_iff pair.1 pair.2 after).mp accepted
  rw [options.store_eq_put pair.1 value plain.1]
  exact usable.put pair.1 value (Setting.read_fits pair.1 pair.2 value plain read)

/-- A change that fails part-way has set only data that fit. -/
theorem set_all (usable : options.Usable) (pairs : List (String × Datum))
    (plain : ∀ pair ∈ pairs, Setting.Plain pair) : (options.setAll pairs).1.Usable := by
  induction pairs generalizing options with
  | nil => exact usable
  | cons pair rest induction =>
      rw [List.forall_mem_cons] at plain
      cases accepted : options.set pair.1 pair.2 with
      | ok after =>
          rw [options.set_all_cons_ok pair.1 pair.2 rest after accepted]
          exact induction (usable.set pair plain.1 after accepted) plain.2
      | error fault =>
          rw [options.set_all_cons_error pair.1 pair.2 rest fault accepted]
          exact usable

theorem assign (usable : options.Usable) (pairs : List (String × Datum))
    (plain : ∀ pair ∈ pairs, Setting.Plain pair) : (options.assign pairs).1.Usable := by
  obtain same | same := options.assign_fst_cases pairs
  · rw [same]
    exact usable
  · rw [same]
    exact usable.set_all pairs plain

theorem snapshot (usable : options.Usable) (kept : List (String × Datum))
    (told : options.snapshot = .ok kept) : ∀ entry ∈ kept, Setting.Fits entry.1 entry.2 := by
  obtain ⟨-, rfl⟩ | ⟨-, listed, values⟩ := options.snapshot_ok_cases kept told
  · exact nofun
  · intro entry member
    have named : entry.1 ∈ names := listed ▸ List.mem_map_of_mem member
    obtain ⟨value, there, fits⟩ := usable entry.1 named
    rw [values entry member] at there
    cases there
    exact fits

theorem restore (usable : options.Usable) (kept : List (String × Datum))
    (fits : ∀ entry ∈ kept, Setting.Fits entry.1 entry.2) : (options.restore kept).Usable := by
  induction kept generalizing options with
  | nil => exact usable
  | cons entry rest induction =>
      rw [List.forall_mem_cons] at fits
      exact induction (usable.put entry.1 entry.2 fits.1) fits.2

theorem override (usable : options.Usable) (pairs : List (String × Datum))
    (plain : ∀ pair ∈ pairs, Setting.Plain pair) (inner : Options)
    (answer : Except Fault (List (String × Datum)))
    (overridden : options.override pairs = (inner, answer)) :
    inner.Usable ∧ ∀ kept, answer = .ok kept → ∀ entry ∈ kept, Setting.Fits entry.1 entry.2 := by
  have changed := usable.assign pairs plain
  obtain ⟨fault, -, rfl, rfl⟩ | ⟨kept, fault, told, -, rfl, rfl⟩ | ⟨kept, told, assigned, rfl⟩ :=
    options.override_cases pairs inner answer overridden
  · exact ⟨usable, nofun⟩
  · exact ⟨changed.restore kept (usable.snapshot kept told), nofun⟩
  · rw [assigned] at changed
    refine ⟨changed, ?_⟩
    intro other same
    cases same
    exact usable.snapshot kept told

end Usable

theorem names_of_texts (names : List String) :
    namesOfDatum (.list (names.map .text)) = .ok names := by
  rw [namesOfDatum, List.mapM_map]
  exact (List.mapM_pure (f := id)).trans (congrArg Except.ok (List.map_id names))

namespace Usable

variable {options : Options}

theorem function_names_eq (usable : options.Usable) :
    ∃ names, options.functionNames = .ok names ∧
      ∀ name ∈ names, Setting.isFunctionName name = true := by
  obtain ⟨_, there, names, rfl, words⟩ := usable "function_names" (by decide)
  exact ⟨names, (read_eq _ _ _ _ there).trans (names_of_texts names), words⟩

theorem operators_eq (usable : options.Usable) :
    ∃ characters, options.operators = .ok characters := by
  obtain ⟨_, there, characters, rfl⟩ := usable "operators" (by decide)
  exact ⟨characters, read_eq _ _ _ _ there⟩

theorem brackets_eq (usable : options.Usable) : ∃ pairs, options.brackets = .ok pairs := by
  obtain ⟨_, there, pairs, rfl, -⟩ := usable "brackets" (by decide)
  exact ⟨pairs, read_eq _ _ _ _ there⟩

theorem words (usable : options.Usable) : options.settings.NamesAreWords := by
  obtain ⟨names, found, words⟩ := usable.function_names_eq
  rw [Settings.NamesAreWords, settings, found]
  exact words

theorem complete (usable : options.Usable) : options.settings.MessagesComplete := by
  obtain ⟨_, there, entries, rfl, complete⟩ := usable "messages" (by decide)
  have found : options.settings.messages = .ok entries := read_eq _ _ _ _ there
  intro type
  exact (Settings.message_for_ok_iff _ entries found type).mpr (complete type)

theorem first_fault_none (usable : options.Usable) (tokens : List Token) :
    options.firstFault tokens = none := by
  obtain ⟨characters, operators⟩ := usable.operators_eq
  obtain ⟨pairs, brackets⟩ := usable.brackets_eq
  induction tokens with
  | nil => rfl
  | cons token rest induction =>
      have asked : options.asked token = .ok () := by
        unfold asked
        rw [operators, brackets]
        split <;> rfl
      rw [firstFault, asked, induction]
      rfl

theorem read_formula_eq (usable : options.Usable) (drawn : Nat) (text : String) :
    options.readFormula drawn text =
      (.ok (Formula.parseNumbered options.settings drawn text),
        drawn + Element.totalSize (Formula.parseNumbered options.settings drawn text)) := by
  obtain ⟨names, found, -⟩ := usable.function_names_eq
  have readable : ∃ elements last, options.readFormula drawn text = (.ok elements, last) := by
    rw [readFormula, found]
    simp only [usable.first_fault_none]
    split
    · exact ⟨_, _, rfl⟩
    · exact ⟨_, _, rfl⟩
  obtain ⟨elements, last, read⟩ := readable
  obtain ⟨rfl, rfl⟩ := options.read_formula_ok drawn last text elements read
  exact read

end Usable

end Options

end InlineFormula
